import QueryGate.Proofs.Letters
import QueryGate.Proofs.Tokens

/-!
Credentials. A token may come with its scheme and with white space around it; as both stand outside
its middle part, it names the same owner, or fails in the same way, as it does without them.
-/

namespace QueryGate

namespace Text

lemma utf8Size_toLower (c : Char) : c.toLower.utf8Size = c.utf8Size :=
  forall_of_ascii (P := fun c => c.toLower.utf8Size = c.utf8Size) (by decide) fun _ h _ => by
    rw [h]

lemma isBlank_toLower (c : Char) : isBlank c.toLower = isBlank c :=
  forall_of_ascii (P := fun c => isBlank c.toLower = isBlank c) (by decide) fun _ h _ => by
    rw [h]

lemma bytes_map_toLower (cs : List Char) :
    Layout.bytes (cs.map Char.toLower) = Layout.bytes cs := by
  induction cs with
  | nil => rfl
  | cons c cs ih =>
    have hcons (d : Char) (ds : List Char) :
        Layout.bytes (d :: ds) = d.utf8Size + Layout.bytes ds := rfl
    rw [List.map_cons, hcons, hcons, utf8Size_toLower, ih]

/-- A text is cut off behind as many bytes as it has. -/
lemma cutBytes?_append (cs rest : List Char) :
    cutBytes? (Layout.bytes cs) (cs ++ rest) = some (cs, rest) := by
  induction cs with
  | nil =>
    cases rest <;> rfl
  | cons c cs ih =>
    obtain ⟨n, hn⟩ : ∃ n, c.utf8Size + Layout.bytes cs = n + 1 :=
      ⟨c.utf8Size + Layout.bytes cs - 1, by have := c.utf8Size_pos; omega⟩
    have hcons : Layout.bytes (c :: cs) = n + 1 := hn
    have hrest : n + 1 - c.utf8Size = Layout.bytes cs := by omega
    rw [hcons, List.cons_append, cutBytes?, if_pos (by omega), hrest, ih]
    rfl

end Text

namespace Owner

variable {token : String} {start rest : List Char}

/-- A text that is the scheme, in any case. -/
def IsScheme (start : List Char) : Prop := start.map Char.toLower = scheme.toList

lemma isBearer_iff : isBearer token = true ↔
    ∃ start rest, Text.trimChars token.toList = start ++ rest ∧ IsScheme start := by
  rw [isBearer, List.isPrefixOf_iff_prefix, Text.lowerAscii, String.toList_ofList, Text.toList_trim]
  constructor
  · rintro ⟨after, h⟩
    obtain ⟨start, rest, htoken, hstart, -⟩ := List.map_eq_append_iff.mp h.symm
    exact ⟨start, rest, htoken, hstart⟩
  · rintro ⟨start, rest, htoken, hstart⟩
    rw [htoken, List.map_append, hstart]
    exact List.prefix_append _ _

lemma isScheme_iff {s : String} :
    IsScheme s.toList ↔ Text.eqIgnoringAsciiCase s scheme = true := by
  have hlower : Text.lowerAscii scheme = scheme := by decide
  rw [Text.eqIgnoringAsciiCase, hlower, beq_iff_eq, ← String.toList_inj, Text.lowerAscii,
    String.toList_ofList, IsScheme]

namespace IsScheme

lemma bytes_eq (h : IsScheme start) : Layout.bytes start = scheme.utf8ByteSize := by
  rw [← Text.bytes_map_toLower, h]
  rfl

lemma not_mem (h : IsScheme start) : '.' ∉ start := by
  intro hmem
  have hlower := List.mem_map_of_mem (f := Char.toLower) hmem
  rw [h] at hlower
  revert hlower
  decide

/-- The scheme ends with a space. -/
lemma getLast?_blank (h : IsScheme start) : ∃ c ∈ start.getLast?, Text.isBlank c = true := by
  have hlast : (start.map Char.toLower).getLast? = some ' ' := by
    rw [h]
    rfl
  rw [List.getLast?_map, Option.map_eq_some_iff] at hlast
  obtain ⟨c, hc, hspace⟩ := hlast
  refine ⟨c, hc, ?_⟩
  rw [← Text.isBlank_toLower, hspace]
  rfl

/-- Behind the scheme of a text without white space at its end there is a token. -/
lemma trimChars_ne_nil (h : IsScheme start)
    (htoken : Text.trimChars token.toList = start ++ rest) : Text.trimChars rest ≠ [] := by
  intro hnil
  have hblank := Text.blank_of_trimChars_eq_nil hnil
  have hend := (Text.trimChars_eq_self_iff.mp (Text.trimChars_trimChars token.toList)).2
  rw [htoken, List.getLast?_append] at hend
  rcases hrest : rest.getLast? with _ | c
  · obtain ⟨c, hc, hspace⟩ := h.getLast?_blank
    exact hend c (by rwa [hrest]) hspace
  · exact hend c (by simp [hrest]) (hblank c (List.mem_of_getLast? hrest))

end IsScheme

/-- **A credential names the owner that its text names.** -/
theorem ofBearer_eq_ofToken (h : isBearer token = true) : ofBearer token = ofToken token := by
  obtain ⟨start, rest, htoken, hstart⟩ := isBearer_iff.mp h
  have hne : (Text.trimChars rest).isEmpty = false :=
    List.isEmpty_eq_false_iff.mpr (hstart.trimChars_ne_nil htoken)
  have hcut : Text.cutBytes? scheme.utf8ByteSize (Text.trimChars token.toList) =
      some (start, rest) := by
    rw [htoken, ← hstart.bytes_eq, Text.cutBytes?_append]
  have hscheme : Text.eqIgnoringAsciiCase (String.ofList start) scheme = true :=
    isScheme_iff.mp (by rwa [String.toList_ofList])
  rw [ofBearer, hcut]
  simp only [hscheme, hne, Bool.not_false, Bool.and_self, if_true]
  refine ofToken_congr ?_
  calc payload? (String.ofList (Text.trimChars rest)).toList
    _ = payload? rest := by rw [String.toList_ofList, payload?_trimChars]
    _ = payload? (start ++ rest) := (payload?_append_left hstart.not_mem rest).symm
    _ = payload? token.toList := by rw [← htoken, payload?_trimChars]

lemma resolve_none_some (token : String) : resolve none (some token) = ofToken token := by
  by_cases h : isBearer token = true
  · rw [resolve, if_pos h, ofBearer_eq_ofToken h]
  · rw [resolve, if_neg h]

lemma not_mem_of_isBlankText {s : String} (h : Text.isBlankText s = true) : '.' ∉ s.toList :=
  not_mem_of_blank (List.all_eq_true.mp h)

/-- **A credential and its bare token are treated alike.** Whatever text is given, its owner is the
owner of the text as a token; and neither white space around a token nor a scheme in front of it
makes a difference. -/
theorem resolve_token :
    (∀ token, resolve none (some token) = ofToken token) ∧
      ∀ before start token after : String,
        Text.isBlankText before = true → Text.isBlankText after = true →
          (start = "" ∨ Text.eqIgnoringAsciiCase start scheme = true) →
            resolve none (some (before ++ start ++ token ++ after)) = ofToken token := by
  refine ⟨resolve_none_some, fun before start token after hbefore hafter hstart => ?_⟩
  have hpoint : '.' ∉ start.toList := by
    rcases hstart with rfl | hscheme
    · simp
    · exact (isScheme_iff.mpr hscheme).not_mem
  rw [resolve_none_some]
  refine ofToken_congr ?_
  calc payload? (before ++ start ++ token ++ after).toList
    _ = payload? (before.toList ++ (start.toList ++ (token.toList ++ after.toList))) := by
      simp only [String.toList_append, List.append_assoc]
    _ = payload? (token.toList ++ after.toList) := by
      rw [payload?_append_left (not_mem_of_isBlankText hbefore), payload?_append_left hpoint]
    _ = payload? token.toList := payload?_append_right (not_mem_of_isBlankText hafter) _

/-- A credential around a token, and the scheme alone. -/
theorem resolve_token_credential :
    resolve none (some "\tBeArEr e30.eyJzdWIiOiJhYiJ9.sig ") = .ok ab ∧
      resolve none (some " Bearer ") = .error .badToken := by
  have hspell : String.ofList (spell "e30".toList (Utf8.bytes (claimsFor "ab").compact) 0
      "sig".toList) = "e30.eyJzdWIiOiJhYiJ9.sig" := by decide +kernel
  have hread : claimsOf? (Utf8.bytes (claimsFor "ab").compact) = some (claimsFor "ab") :=
    (claimsOf?_bytes _).trans (Json.parse?_compact rfl)
  have htoken : ofToken "e30.eyJzdWIiOiJhYiJ9.sig" = .ok ab := by
    rw [← hspell]
    exact ofToken_spell (by decide) (by decide) hread (.member rfl) 0
  have hscheme : ofToken " Bearer " = .error .badToken := by
    have hpayload : payload? (Text.trimChars " Bearer ".toList) = none := by decide +kernel
    rw [ofToken, hpayload]
    rfl
  have hcredential := resolve_token.2 "\t" "BeArEr " "e30.eyJzdWIiOiJhYiJ9.sig" " "
    (by decide) (by decide) (.inr (by decide))
  exact ⟨hcredential.trans htoken, (resolve_token.1 " Bearer ").trans hscheme⟩

end Owner

end QueryGate
