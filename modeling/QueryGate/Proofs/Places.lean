import QueryGate.Proofs.Holdings

/-!
Paths as texts. A name that is one step of a path adds one part to the text of a path, so that what
is read from the text of a document's path is its root, its owner and its file.
-/

namespace QueryGate

namespace Text

lemma splitAt_eq_splitOnP (sep : Char) (cs : List Char) :
    splitAt sep cs = cs.splitOnP (· = sep) := by
  induction cs with
  | nil => rfl
  | cons c cs ih =>
    rw [splitAt, ih, List.splitOnP_cons_eq_if_modifyHead]
    by_cases hc : c = sep
    · simp [hc]
    · rcases h : cs.splitOnP (· = sep) with _ | ⟨part, parts⟩
      · exact absurd h (List.splitOnP_ne_nil _ _)
      · simp [hc]

end Text

namespace Path

/-- A name that neither stays in place nor goes back, and is not several names. -/
structure IsStep (name : String) : Prop where
  noSlash : '/' ∉ name.toList
  ne_empty : name ≠ ""
  ne_dot : name ≠ "."
  ne_dots : name ≠ ".."

variable {name : String}

lemma IsStep.step_eq (h : IsStep name) (parts : List String) : step parts name = parts ++ [name] := by
  simp [step, h.ne_empty, h.ne_dot, h.ne_dots]

lemma splitOnP_name (h : IsStep name) : name.toList.splitOnP (· = '/') = [name.toList] := by
  refine List.splitOnP_eq_singleton fun c hc => decide_eq_false ?_
  rintro rfl
  exact h.noSlash hc

/-- A name after a slash is one more part. -/
lemma textParts_append (h : IsStep name) (front : String) :
    textParts (front ++ "/" ++ name) = textParts front ++ [name] := by
  have hchars : (front ++ "/" ++ name).toList = front.toList ++ '/' :: name.toList := by simp
  rw [textParts, hchars, Text.splitAt_eq_splitOnP, List.splitOnP_append_cons _ _ (by simp),
    splitOnP_name h, List.map_append, List.foldl_append, ← Text.splitAt_eq_splitOnP, ← textParts]
  simp [h.step_eq]

/-- A slash at the end does not count. -/
lemma textParts_slash (front : String) : textParts (front ++ "/") = textParts front := by
  have hchars : (front ++ "/").toList = front.toList ++ '/' :: [] := by simp
  rw [textParts, hchars, Text.splitAt_eq_splitOnP, List.splitOnP_append_cons _ _ (by simp),
    List.map_append, List.foldl_append, ← Text.splitAt_eq_splitOnP, ← textParts]
  simp [step]

lemma textParts_joinText (h : IsStep name) (text : String) :
    textParts (joinText text name) = textParts text ++ [name] := by
  rw [joinText]
  split
  · next hend =>
    rw [Bool.or_eq_true, String.isEmpty_iff, decide_eq_true_eq] at hend
    rcases hend with rfl | hlast
    · have hone : textParts name = [name] := by
        rw [textParts, Text.splitAt_eq_splitOnP, splitOnP_name h]
        simp [h.step_eq]
      rw [String.empty_append, hone]
      rfl
    · obtain ⟨front, hfront⟩ := List.getLast?_eq_some_iff.mp hlast
      obtain rfl : text = String.ofList front ++ "/" := by
        rw [← String.toList_inj, hfront]
        simp
      rw [textParts_append h, textParts_slash]
  · exact textParts_append h text

lemma head?_joinText (h : IsStep name) (text : String) :
    (joinText text name).toList.head? = some '/' ↔ text.toList.head? = some '/' := by
  rcases htext : text.toList with _ | ⟨c, cs⟩
  · obtain rfl : text = "" := String.toList_inj.mp htext
    have hname : name.toList.head? ≠ some '/' := fun hhead => h.noSlash (List.mem_of_head? hhead)
    simp [joinText, hname]
  · rw [joinText]
    split <;> simp [htext]

/-- A step below the text of a path is one more part. -/
lemma parts_ofText_joinText (h : IsStep name) (text : String) :
    (ofText (joinText text name)).parts = (ofText text).parts ++ [name] := by
  have hparts (t : String) : (ofText t).parts =
      (if t.toList.head? = some '/' then ["/"] else []) ++ textParts t := List.append_nil _
  rw [hparts, hparts, textParts_joinText h, List.append_assoc]
  simp only [head?_joinText h]

end Path

namespace Archive

lemma isStep_text (n : Segment) : Path.IsStep n.text := by
  have husable := n.usable
  simp only [Segment.isUsable, Segment.isPath, Bool.and_eq_true, Bool.not_eq_true',
    Bool.or_eq_false_iff, decide_eq_false_iff_not, List.any_eq_false] at husable
  obtain ⟨-, ⟨hdot, hdots⟩, hchars⟩ := husable
  refine ⟨fun hmem => ?_, text_ne_empty n, hdot, hdots⟩
  simpa using hchars '/' hmem

lemma isStep_fileName (n : Segment) : Path.IsStep (fileName n) := by
  have hlong (short : String) (h : short.toList.length ≤ 2) : fileName n ≠ short := by
    rintro rfl
    rw [fileName, String.toList_append, List.length_append] at h
    have : extension.toList.length = 5 := rfl
    omega
  refine ⟨?_, fileName_ne_empty n, hlong _ (by decide), hlong _ (by decide)⟩
  rw [fileName, String.toList_append, List.mem_append, not_or]
  exact ⟨(isStep_text n).noSlash, by decide⟩

variable (a : Archive) (o : Owner) (n : Segment)

/-- The path of a document, written and read again, is two steps below that of the archive. -/
lemma parts_ofText_documentPath :
    (Path.ofText (a.documentPath o n).toText).parts =
      (Path.ofText a.root.toText).parts ++ [o.text, fileName n] := by
  rw [documentPath, directory, Path.toText_child, Path.toText_child,
    Path.parts_ofText_joinText (isStep_fileName n), Path.parts_ofText_joinText (isStep_text o),
    List.append_assoc]
  rfl

lemma documentPath_injective :
    Function.Injective fun k : Owner × Segment => (a.documentPath k.1 k.2).toText := by
  rintro ⟨o, n⟩ ⟨p, m⟩ h
  have hparts := congrArg (fun text => (Path.ofText text).parts) h
  simp only [parts_ofText_documentPath, List.append_cancel_left_eq, List.cons.injEq] at hparts
  rw [Segment.text_injective hparts.1, fileName_injective hparts.2.1]

end Archive

end QueryGate
