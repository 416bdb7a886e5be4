import QueryGate.Proofs.Base64
import QueryGate.Proofs.Places
import QueryGate.Proofs.Quotations
import QueryGate.Proofs.Trimming

/-!
Tokens and the owners that they name. A token that is written with claims names their subject; and a
token that names an owner has three parts, the middle one of which spells claims with that owner.
-/

namespace QueryGate

/-! ### Parts of a text -/

namespace Text

lemma not_mem_of_mem_splitAt {sep : Char} {cs : List Char} :
    ∀ part ∈ splitAt sep cs, sep ∉ part := by
  induction cs with
  | nil => simp [splitAt]
  | cons c cs ih =>
    rw [splitAt]
    split
    · exact List.forall_mem_cons.mpr ⟨by simp, ih⟩
    · next hc =>
      have hnot : sep ≠ c := fun e => hc e.symm
      rcases hs : splitAt sep cs with _ | ⟨part, parts⟩
      · simp [hnot]
      · rw [hs] at ih
        obtain ⟨hpart, hparts⟩ := List.forall_mem_cons.mp ih
        exact List.forall_mem_cons.mpr ⟨by simp [hnot, hpart], hparts⟩

/-- The parts of a text are the texts without the separator that it is joined from. -/
lemma splitAt_eq_iff {sep : Char} {cs : List Char} {parts : List (List Char)} (h : parts ≠ []) :
    splitAt sep cs = parts ↔ cs = [sep].intercalate parts ∧ ∀ part ∈ parts, sep ∉ part := by
  have hsplit (ds : List Char) : splitAt sep ds = ds.splitOn sep := by
    rw [splitAt_eq_splitOnP, List.splitOn]
    rfl
  constructor
  · rintro rfl
    exact ⟨by rw [hsplit, List.intercalate_splitOn], not_mem_of_mem_splitAt⟩
  · rintro ⟨rfl, hparts⟩
    rw [hsplit, List.splitOn_intercalate sep hparts h]

end Text

namespace Owner

/-! ### The middle part -/

lemma payload?_eq_some_iff {cs p : List Char} :
    payload? cs = some p ↔ ∃ header signature, cs = header ++ '.' :: (p ++ '.' :: signature) ∧
      '.' ∉ header ∧ '.' ∉ p ∧ '.' ∉ signature := by
  constructor
  · intro h
    rw [payload?] at h
    split at h
    · next a q b hs =>
      cases h
      obtain ⟨rfl, hparts⟩ := (Text.splitAt_eq_iff (by simp)).mp hs
      simp only [List.forall_mem_cons] at hparts
      exact ⟨a, b, by simp [List.intercalate_cons_cons], hparts.1, hparts.2.1, hparts.2.2.1⟩
    · cases h
  · rintro ⟨a, b, rfl, ha, hp, hb⟩
    have hs : Text.splitAt '.' (a ++ '.' :: (p ++ '.' :: b)) = [a, p, b] := by
      refine (Text.splitAt_eq_iff (by simp)).mpr ⟨by simp [List.intercalate_cons_cons], ?_⟩
      simp [ha, hp, hb]
    rw [payload?, hs]

lemma payload?_cons {c : Char} (hc : c ≠ '.') (cs : List Char) :
    payload? (c :: cs) = payload? cs := by
  rw [payload?, payload?, Text.splitAt, if_neg hc]
  rcases Text.splitAt '.' cs with _ | ⟨a, _ | ⟨b, _ | ⟨d, _ | _⟩⟩⟩ <;> rfl

/-- What stands in front of the first point does not matter. -/
lemma payload?_append_left {w : List Char} (hw : '.' ∉ w) (cs : List Char) :
    payload? (w ++ cs) = payload? cs := by
  induction w with
  | nil => rfl
  | cons c w ih =>
    rw [List.mem_cons, not_or] at hw
    rw [List.cons_append, payload?_cons (Ne.symm hw.1), ih hw.2]

lemma payload?_reverse (cs : List Char) : payload? cs.reverse = (payload? cs).map List.reverse := by
  refine Option.ext fun p => ?_
  rw [payload?_eq_some_iff, Option.map_eq_some_iff]
  constructor
  · rintro ⟨a, b, hcs, ha, hp, hb⟩
    refine ⟨p.reverse, payload?_eq_some_iff.mpr ⟨b.reverse, a.reverse, ?_, ?_⟩,
      List.reverse_reverse p⟩
    · rw [← List.reverse_reverse cs, hcs]
      simp
    · simpa using ⟨hb, hp, ha⟩
  · rintro ⟨q, hq, rfl⟩
    obtain ⟨a, b, rfl, ha, hp, hb⟩ := payload?_eq_some_iff.mp hq
    exact ⟨b.reverse, a.reverse, by simp, by simpa using ⟨hb, hp, ha⟩⟩

/-- What stands behind the last point does not matter either. -/
lemma payload?_append_right {w : List Char} (hw : '.' ∉ w) (cs : List Char) :
    payload? (cs ++ w) = payload? cs := by
  have h := payload?_append_left (w := w.reverse) (by simpa using hw) cs.reverse
  rw [← List.reverse_append, payload?_reverse, payload?_reverse] at h
  exact Option.map_injective List.reverse_injective h

lemma not_mem_of_blank {w : List Char} (hw : ∀ c ∈ w, Text.isBlank c = true) : '.' ∉ w := fun h =>
  absurd (hw '.' h) (by decide)

lemma payload?_trimChars (cs : List Char) : payload? (Text.trimChars cs) = payload? cs := by
  obtain ⟨w, hw, hblank⟩ := Text.trimEnd_append (Text.trimStart cs)
  have hstart : ∀ c ∈ cs.takeWhile Text.isBlank, Text.isBlank c = true :=
    fun c hc => List.all_eq_true.mp List.all_takeWhile c hc
  calc payload? (Text.trimChars cs)
    _ = payload? (Text.trimStart cs) := by
      rw [← hw, payload?_append_right (not_mem_of_blank hblank)]
      rfl
    _ = payload? (cs.takeWhile Text.isBlank ++ Text.trimStart cs) :=
      (payload?_append_left (not_mem_of_blank hstart) _).symm
    _ = payload? cs := by rw [Text.trimStart, List.takeWhile_append_dropWhile]

/-- The owner depends on the middle part alone. -/
lemma ofToken_congr {token token' : String} (h : payload? token.toList = payload? token'.toList) :
    ofToken token = ofToken token' := by
  rw [ofToken, ofToken, payload?_trimChars, payload?_trimChars, h]

/-! ### Claims -/

/-- Claims that name a subject: an object with one such member, or an array with nothing else. -/
inductive Names (sub : String) : Json → Prop
  | member {members : List (String × Json)}
      (h : members.filter (·.1 = "sub") = [("sub", .string sub)]) : Names sub (.object members)
  | item : Names sub (.array [.string sub])

lemma subject?_eq_some_iff {claims : Json} {sub : String} :
    subject? claims = some sub ↔ Names sub claims := by
  constructor
  · intro h
    rw [subject?] at h
    split at h
    · next s hs =>
      cases h
      unfold Json.onlyField? at hs
      split at hs
      · split at hs
        · next k j hf =>
          cases hs
          have hk : k = "sub" := by
            have hmem : (k, Json.string sub) ∈ [(k, Json.string sub)] := List.mem_singleton_self _
            rw [← hf] at hmem
            exact of_decide_eq_true (List.mem_filter.mp hmem).2
          exact .member (hk ▸ hf)
        · cases hs
      · cases hs
        exact .item
      · cases hs
    · cases h
  · rintro (h | _)
    · simp [subject?, Json.onlyField?, h]
    · rfl

lemma lookup_filter {α : Type} (k : String) (es : List (String × α)) :
    (es.filter (·.1 = k)).lookup k = es.lookup k := by
  induction es with
  | nil => rfl
  | cons e es ih =>
    by_cases he : e.1 = k
    · obtain ⟨l, a⟩ := e
      subst he
      rw [List.filter_cons_of_pos (by simp), List.lookup_cons_self, List.lookup_cons_self]
    · have hne : (k == e.1) = false := beq_eq_false_iff_ne.mpr (Ne.symm he)
      rw [List.filter_cons_of_neg (by simpa using he), ih, List.lookup_cons, hne]

lemma Names.member?_eq_some_iff {claims : Json} {sub : String} (h : Names sub claims) :
    claims.member? "sub" = some (.string sub) ↔ ∃ members, claims = .object members := by
  cases h with
  | @member members h =>
    refine ⟨fun _ => ⟨members, rfl⟩, fun _ => ?_⟩
    rw [Json.member?, ← lookup_filter, List.filter_reverse, h]
    rfl
  | item => simp [Json.member?]

lemma Names.quotes {claims : Json} {sub : String} {bytes : List UInt8} (h : Names sub claims)
    (hquoted : Quoted bytes claims) : Quotes bytes sub := by
  have hstring (hsub : Quoted bytes (.string sub)) : Quotes bytes sub := by
    cases hsub
    assumption
  cases h with
  | @member members h =>
    cases hquoted with
    | object _ hall =>
      have hmem : ("sub", Json.string sub) ∈ members.filter (·.1 = "sub") :=
        h ▸ List.mem_singleton_self _
      exact hstring (hall _ (List.mem_of_mem_filter hmem))
  | item =>
    cases hquoted with
    | array hall => exact hstring (hall _ (List.mem_singleton_self _))

lemma ofId_eq_ok_iff {id : String} {o : Owner} : ofId id = .ok o ↔ id = o.text := by
  rw [ofId, Segment.ofText]
  constructor
  · intro h
    split at h
    · cases h
      rfl
    · split at h <;> cases h
  · rintro rfl
    exact dif_pos o.usable

/-- A subject is the owner of its text; the empty one need not be turned away first. -/
lemma ofSubject_eq_ok_iff {s : String} {o : Owner} :
    (if s.isEmpty then .error .badToken else (ofId s).mapError fun _ => Fault.badToken) =
      Except.ok o ↔ s = o.text := by
  rw [← ofId_eq_ok_iff]
  constructor
  · intro h
    split at h
    · cases h
    · rcases hid : ofId s with e | o'
      · rw [hid] at h
        cases h
      · rw [hid] at h
        cases h
        rfl
  · intro h
    have hne : s ≠ "" := by
      rw [ofId_eq_ok_iff.mp h]
      exact Archive.text_ne_empty o
    rw [h, if_neg (by simpa using hne)]
    rfl

/-- A token names the owner of the claims in its middle part, when these can be read. -/
lemma ofToken_eq_ok_iff {token : String} {o : Owner} :
    ofToken token = .ok o ↔
      ∃ p claims, payload? token.toList = some p ∧ claims? p = some claims ∧
        Names o.text claims := by
  have hsub : (∃ p claims, payload? token.toList = some p ∧ claims? p = some claims ∧
      Names o.text claims) ↔
        ((payload? token.toList).bind claims?).bind subject? = some o.text := by
    simp only [Option.bind_eq_some_iff, subject?_eq_some_iff]
    constructor
    · rintro ⟨p, claims, hp, hclaims, hnames⟩
      exact ⟨claims, ⟨p, hp, hclaims⟩, hnames⟩
    · rintro ⟨claims, ⟨p, hp, hclaims⟩, hnames⟩
      exact ⟨p, claims, hp, hclaims, hnames⟩
  rw [hsub, ofToken, payload?_trimChars]
  rcases ((payload? token.toList).bind claims?).bind subject? with _ | s
  · simp
  · rw [Option.some.injEq]
    exact ofSubject_eq_ok_iff

/-! ### Written tokens -/

/-- A token of a header, of bytes in base 64 with some padding, and of a signature. -/
def spell (header : List Char) (bytes : List UInt8) (padding : Nat) (signature : List Char) :
    List Char :=
  header ++ '.' :: (Base64Url.encode bytes ++ List.replicate padding '=' ++ '.' :: signature)

/-- The digits end where the padding begins. -/
lemma dropWhile_padding (bytes : List UInt8) (n : Nat) :
    ((Base64Url.encode bytes ++ List.replicate n '=').reverse.dropWhile (· = '=')).reverse =
      Base64Url.encode bytes := by
  have hdrop : (Base64Url.encode bytes).reverse.dropWhile (· = '=') =
      (Base64Url.encode bytes).reverse := by
    rcases hr : (Base64Url.encode bytes).reverse with _ | ⟨c, cs⟩
    · rfl
    · have hmem : c ∈ Base64Url.encode bytes := by
        rw [← List.mem_reverse, hr]
        exact List.mem_cons_self
      refine List.dropWhile_cons_of_neg fun hc => ?_
      rw [of_decide_eq_true hc] at hmem
      exact Base64Url.not_mem_encode (by decide) bytes hmem
  rw [List.reverse_append, List.reverse_replicate, List.dropWhile_append_of_pos (by simp), hdrop,
    List.reverse_reverse]

/-- Claims are read from just those middle parts that spell them, with any padding. -/
lemma claims?_eq_some_iff {p : List Char} {claims : Json} :
    claims? p = some claims ↔ ∃ bytes n,
      p = Base64Url.encode bytes ++ List.replicate n '=' ∧ claimsOf? bytes = some claims := by
  rw [claims?, Option.bind_eq_some_iff]
  simp only [Base64Url.decode?_eq_some_iff]
  constructor
  · rintro ⟨bytes, hbytes, hclaims⟩
    refine ⟨bytes, (p.reverse.takeWhile (· = '=')).length, ?_, hclaims⟩
    have hpad : p.reverse.takeWhile (· = '=') =
        List.replicate (p.reverse.takeWhile (· = '=')).length '=' :=
      List.eq_replicate_iff.mpr ⟨rfl, fun c hc =>
        of_decide_eq_true (List.all_eq_true.mp List.all_takeWhile c hc)⟩
    rw [← hbytes, ← List.reverse_replicate, ← hpad, ← List.reverse_append,
      List.takeWhile_append_dropWhile, List.reverse_reverse]
  · rintro ⟨bytes, n, rfl, hclaims⟩
    exact ⟨bytes, dropWhile_padding bytes n, hclaims⟩

section Spelled

variable {header header' signature signature' : List Char} {bytes bytes' : List UInt8} {n n' : Nat}

lemma payload?_spell (hh : '.' ∉ header) (hs : '.' ∉ signature) (bytes : List UInt8) (n : Nat) :
    payload? (spell header bytes n signature) =
      some (Base64Url.encode bytes ++ List.replicate n '=') := by
  have hdigits : '.' ∉ Base64Url.encode bytes := Base64Url.not_mem_encode (by decide) bytes
  refine payload?_eq_some_iff.mpr ⟨header, signature, rfl, hh, ?_, hs⟩
  simp [hdigits]

/-- The bytes of a token are its own. -/
lemma spell_inj (hh : '.' ∉ header) (hs : '.' ∉ signature) (hh' : '.' ∉ header')
    (hs' : '.' ∉ signature')
    (h : spell header bytes n signature = spell header' bytes' n' signature') :
    bytes = bytes' := by
  have hp := congrArg payload? h
  rw [payload?_spell hh hs, payload?_spell hh' hs', Option.some.injEq] at hp
  have he : Base64Url.encode bytes = Base64Url.encode bytes' := by
    rw [← dropWhile_padding bytes n, hp, dropWhile_padding]
  rw [← Option.some.injEq, ← Base64Url.decode?_eq_some_iff.mpr he,
    Base64Url.decode?_eq_some_iff.mpr rfl]

end Spelled

/-- **A token names an owner just when it spells claims that name it.** -/
theorem ofToken_eq_ok_iff_spelled {token : String} {o : Owner} :
    ofToken token = .ok o ↔ ∃ header bytes n signature claims,
      '.' ∉ header ∧ '.' ∉ signature ∧
        Text.trimChars token.toList = spell header bytes n signature ∧
        claimsOf? bytes = some claims ∧ Names o.text claims := by
  rw [ofToken_eq_ok_iff, ← payload?_trimChars]
  constructor
  · rintro ⟨p, claims, hp, hclaims, hnames⟩
    obtain ⟨header, signature, htoken, hh, -, hs⟩ := payload?_eq_some_iff.mp hp
    obtain ⟨bytes, n, rfl, hread⟩ := claims?_eq_some_iff.mp hclaims
    exact ⟨header, bytes, n, signature, claims, hh, hs, htoken, hread, hnames⟩
  · rintro ⟨header, bytes, n, signature, claims, hh, hs, htoken, hread, hnames⟩
    rw [htoken, payload?_spell hh hs]
    exact ⟨_, claims, rfl, claims?_eq_some_iff.mpr ⟨bytes, n, rfl, hread⟩, hnames⟩

lemma ofToken_spell {header signature : List Char} {bytes : List UInt8} {claims : Json} {o : Owner}
    (hh : '.' ∉ header) (hs : '.' ∉ signature) (hread : claimsOf? bytes = some claims)
    (hnames : Names o.text claims) (n : Nat) :
    ofToken (String.ofList (spell header bytes n signature)) = .ok o := by
  have hp : payload? (String.ofList (spell header bytes n signature)).toList =
      some (Base64Url.encode bytes ++ List.replicate n '=') := by
    rw [String.toList_ofList, payload?_spell hh hs]
  exact ofToken_eq_ok_iff.mpr
    ⟨_, claims, hp, claims?_eq_some_iff.mpr ⟨bytes, n, rfl, hread⟩, hnames⟩

lemma claimsOf?_bytes (text : String) : claimsOf? (Utf8.bytes text) = Json.parse? text := by
  rw [claimsOf?, Utf8.text_bytes, Json.parse?]

/-- A token whose middle part is the text of a document that has the subject under its name. -/
def Carries (token sub : String) : Prop :=
  ∃ header text n signature claims, '.' ∉ header ∧ '.' ∉ signature ∧
    Text.trimChars token.toList = spell header (Utf8.bytes text) n signature ∧
    Json.parse? text = some claims ∧ claims.member? "sub" = some (.string sub)

lemma carries_iff {token sub : String} {header signature : List Char} {bytes : List UInt8} {n : Nat}
    {claims : Json} (hh : '.' ∉ header) (hs : '.' ∉ signature)
    (htoken : Text.trimChars token.toList = spell header bytes n signature)
    (hread : claimsOf? bytes = some claims) (hnames : Names sub claims) :
    Carries token sub ↔
      (∃ text, bytes = Utf8.bytes text) ∧ ∃ members, claims = .object members := by
  rw [← hnames.member?_eq_some_iff]
  constructor
  · rintro ⟨header', text, n', signature', claims', hh', hs', htoken', hread', hmember⟩
    rw [htoken] at htoken'
    obtain rfl := spell_inj hh hs hh' hs' htoken'
    rw [claimsOf?_bytes, hread', Option.some.injEq] at hread
    exact ⟨⟨text, rfl⟩, hread ▸ hmember⟩
  · rintro ⟨⟨text, rfl⟩, hmember⟩
    rw [claimsOf?_bytes] at hread
    exact ⟨header, text, n, signature, claims, hh, hs, htoken, hread, hmember⟩

/-- Claims with a subject and nothing else. -/
def claimsFor (sub : String) : Json := .object [("sub", .string sub)]

/-- **When a token names the owner that it carries.** A token that is written with claims of an
owner names this owner, however the claims are written and padded. A token that names an owner has
three parts, and its middle part spells claims that name the owner, who stands among its bytes in
quotes; it carries the owner as its subject just when the claims are an object and the bytes a
text. -/
theorem token_exact (o : Owner) :
    Json.parse? (claimsFor o.text).compact = some (claimsFor o.text) ∧
    (∀ (header signature text : String) (n : Nat), '.' ∉ header.toList → '.' ∉ signature.toList →
      Json.parse? text = some (claimsFor o.text) →
        ofToken (String.ofList (spell header.toList (Utf8.bytes text) n signature.toList)) =
          .ok o) ∧
    ∀ token : String, ofToken token = .ok o →
      ∃ header bytes n signature claims, '.' ∉ header ∧ '.' ∉ signature ∧
        Text.trimChars token.toList = spell header bytes n signature ∧
        claimsOf? bytes = some claims ∧ Names o.text claims ∧ Quotes bytes o.text ∧
        ofId o.text = .ok o ∧
        (Carries token o.text ↔
          (∃ text, bytes = Utf8.bytes text) ∧ ∃ members, claims = .object members) := by
  refine ⟨Json.parse?_compact rfl, fun header signature text n hh hs htext => ?_,
    fun token h => ?_⟩
  · exact ofToken_spell hh hs ((claimsOf?_bytes text).trans htext) (.member (by simp)) n
  · obtain ⟨header, bytes, n, signature, claims, hh, hs, htoken, hread, hnames⟩ :=
      ofToken_eq_ok_iff_spelled.mp h
    exact ⟨header, bytes, n, signature, claims, hh, hs, htoken, hread, hnames,
      hnames.quotes (quoted_of_claimsOf? hread), ofId_eq_ok_iff.mpr rfl,
      carries_iff hh hs htoken hread hnames⟩

def ab : Owner := ⟨"ab", by decide⟩

/-- A token with more padding than its claims need. -/
theorem token_exact_padded :
    Json.parse? "\x7b\"sub\":\"ab\"\x7d" = some (claimsFor "ab") ∧
      ofToken "e30.eyJzdWIiOiJhYiJ9==.sig" = .ok ab ∧
      ∃ header bytes n signature claims, '.' ∉ header ∧ '.' ∉ signature ∧
        Text.trimChars "e30.eyJzdWIiOiJhYiJ9==.sig".toList = spell header bytes n signature ∧
        claimsOf? bytes = some claims ∧ Names ab.text claims := by
  have hcompact : (claimsFor "ab").compact = "\x7b\"sub\":\"ab\"\x7d" := by decide +kernel
  have hparse := (token_exact ab).1
  rw [ab, hcompact] at hparse
  have hspell : String.ofList (spell "e30".toList (Utf8.bytes "\x7b\"sub\":\"ab\"\x7d") 2
      "sig".toList) = "e30.eyJzdWIiOiJhYiJ9==.sig" := by decide +kernel
  have htoken := (token_exact ab).2.1 "e30" "sig" _ 2 (by decide) (by decide) hparse
  rw [hspell] at htoken
  obtain ⟨header, bytes, n, signature, claims, hh, hs, hspelled, hread, hnames, -⟩ :=
    (token_exact ab).2.2 _ htoken
  exact ⟨hparse, htoken, header, bytes, n, signature, claims, hh, hs, hspelled, hread, hnames⟩

/-- Claims that are a list with a subject and nothing else. -/
def listFor (sub : String) : Json := .array [.string sub]

/-- Such claims have no subject under its name, and name an owner. -/
theorem exists_unnamed_subject :
    ¬ ∀ (token : String) (o : Owner), ofToken token = .ok o → Carries token o.text := by
  intro h
  have hh : '.' ∉ "e30".toList := by decide
  have hs : '.' ∉ "sig".toList := by decide
  have hspelled : Text.trimChars "e30.WyJ4Il0.sig".toList =
      spell "e30".toList (Utf8.bytes (listFor "x").compact) 0 "sig".toList := by decide +kernel
  have hread : claimsOf? (Utf8.bytes (listFor "x").compact) = some (listFor "x") := by
    rw [claimsOf?_bytes]
    exact Json.parse?_compact rfl
  have htoken : ofToken "e30.WyJ4Il0.sig" = .ok ⟨"x", by decide⟩ :=
    ofToken_eq_ok_iff_spelled.mpr ⟨_, _, 0, _, _, hh, hs, hspelled, hread, .item⟩
  obtain ⟨-, members, hobject⟩ := (carries_iff hh hs hspelled hread .item).mp (h _ _ htoken)
  cases hobject

end Owner

end QueryGate
