import QueryGate.Owner
import QueryGate.Proofs.JsonText
import QueryGate.Proofs.Spelling

/-!
Claims that are read from bytes, some of which may spell no character. Each string of the claims
stands among the bytes in quotes, so none is made from a byte that is no text.
-/

namespace QueryGate

namespace Owner

open Json (hexValue? hex4? lowHalf? readEscape? parseString skipSpace parseExponent? parseNumber?
  parseValue parseItems parseMembers objectOf)

/-! ### Marks -/

/-- A string is spoiled by a mark, and goes on behind it. -/
lemma parseString_noText (cs : List Char) :
    parseString (noText ++ cs) = (parseString cs).map fun r => (none, r.2) := by
  have hmark : noText ++ cs = 'x' :: '\\' :: 'u' :: 'd' :: '8' :: '0' :: '0' :: 'x' :: cs := rfl
  have hhalf : readEscape? ('u' :: 'd' :: '8' :: '0' :: '0' :: 'x' :: cs) =
      some (none, 'x' :: cs) := rfl
  rw [hmark, Json.parseString_plain (by decide) (by decide) (by decide), Json.parseString_backslash,
    hhalf, Option.bind_some, Json.parseString_plain (by decide) (by decide) (by decide)]
  rcases parseString cs with _ | ⟨_ | t, rest⟩ <;> rfl

/-- A rest that stands behind characters of which none begins a mark. -/
def Behind (cs rest : List Char) : Prop := ∃ es, 'x' ∉ es ∧ cs = es ++ rest

lemma behind_refl (cs : List Char) : Behind cs cs := ⟨[], List.not_mem_nil, rfl⟩

lemma behind_cons {c : Char} (hc : 'x' ≠ c) (cs : List Char) : Behind (c :: cs) cs :=
  ⟨[c], by simpa using hc, rfl⟩

lemma Behind.trans {cs ds es : List Char} (h : Behind cs ds) (h' : Behind ds es) :
    Behind cs es := by
  obtain ⟨as, has, rfl⟩ := h
  obtain ⟨bs, hbs, rfl⟩ := h'
  exact ⟨as ++ bs, by simp [has, hbs], (List.append_assoc as bs es).symm⟩

lemma behind_dropWhile {p : Char → Bool} (hp : p 'x' = false) (cs : List Char) :
    Behind cs (cs.dropWhile p) := by
  refine ⟨cs.takeWhile p, fun h => ?_, List.takeWhile_append_dropWhile.symm⟩
  rw [List.all_eq_true.mp List.all_takeWhile 'x' h] at hp
  cases hp

lemma behind_skipSpace (cs : List Char) : Behind cs (skipSpace cs) := behind_dropWhile rfl cs

/-- The characters in front of such a rest are spelled. -/
lemma read_append {es rest : List Char} (hes : 'x' ∉ es) {bs : List UInt8}
    (h : Utf8.Read noText bs (es ++ rest)) :
    ∃ tail, bs = es.flatMap String.utf8EncodeChar ++ tail ∧ Utf8.Read noText tail rest := by
  induction es generalizing bs with
  | nil => exact ⟨bs, rfl, h⟩
  | cons e es ih =>
    rw [List.mem_cons, not_or] at hes
    generalize hcs : e :: es ++ rest = cs at h
    cases h with
    | nil => cases hcs
    | char c h =>
      obtain ⟨rfl, rfl⟩ := List.cons.inj hcs
      obtain ⟨tail, rfl, htail⟩ := ih hes.2 h
      exact ⟨tail, by simp, htail⟩
    | byte b h => exact absurd (List.cons.inj hcs).1.symm hes.1

/-! ### Escapes -/

lemma ne_of_hexValue? {c : Char} {n : Nat} (h : hexValue? c = some n) : 'x' ≠ c := by
  rintro rfl
  cases h

lemma not_mem_of_hex4? {a b c d : Char} {n : Nat} (h : hex4? a b c d = some n) :
    'x' ∉ [a, b, c, d] := by
  simp only [hex4?, Option.pure_def, Option.bind_eq_bind, Option.bind_eq_some_iff] at h
  obtain ⟨_, ha, _, hb, _, hc, _, hd, -⟩ := h
  simp [ne_of_hexValue? ha, ne_of_hexValue? hb, ne_of_hexValue? hc, ne_of_hexValue? hd]

/-- The second half of a pair is read wherever it stands. -/
lemma lowHalf?_eq_append {cs rest : List Char} {n : Nat} (h : lowHalf? cs = some (n, rest)) :
    ∃ es, 'x' ∉ es ∧ cs = es ++ rest ∧ ∀ ds, lowHalf? (es ++ ds) = some (n, ds) := by
  unfold lowHalf? at h
  split at h
  · next a b c d ds =>
    split at h
    · next m hm =>
      split at h
      · next hrange =>
        cases h
        refine ⟨['\\', 'u', a, b, c, d], by simpa using not_mem_of_hex4? hm, rfl, fun ds => ?_⟩
        simp only [List.cons_append, List.nil_append, lowHalf?, hm, if_pos hrange]
      · cases h
    · cases h
  · cases h

/-- An escape that is no part of a mark, in front of a rest. When it stands for a character it is
read wherever it stands; half of a pair on its own is not, for another half may follow. -/
def Escaped (cs : List Char) (o : Option Char) (rest : List Char) : Prop :=
  ∃ es, 'x' ∉ es ∧ cs = es ++ rest ∧
    ∀ c, o = some c → ∀ ds, readEscape? (es ++ ds) = some (some c, ds)

section Escapes

variable {cs rest : List Char} {o : Option Char}

lemma escaped_hex {a b c d : Char} {n : Nat} (hn : hex4? a b c d = some n)
    (h : readEscape? ('u' :: a :: b :: c :: d :: cs) = some (o, rest)) :
    Escaped ('u' :: a :: b :: c :: d :: cs) o rest := by
  have hmem : 'x' ∉ ['u', a, b, c, d] := by simpa using not_mem_of_hex4? hn
  simp only [readEscape?, if_true, hn] at h
  split at h
  · next hhigh =>
    split at h
    · next m ds hlow =>
      cases h
      obtain ⟨es, hes, rfl, hread⟩ := lowHalf?_eq_append hlow
      refine ⟨['u', a, b, c, d] ++ es, by simpa [hes] using hmem, rfl, fun c' hc ds => ?_⟩
      rw [← hc]
      simp only [List.cons_append, List.nil_append, readEscape?, if_true, hn, if_pos hhigh, hread]
    · cases h
      exact ⟨_, hmem, rfl, fun _ hc => by cases hc⟩
  · next hhigh =>
    split at h
    · cases h
      exact ⟨_, hmem, rfl, fun _ hc => by cases hc⟩
    · next hlow =>
      cases h
      refine ⟨_, hmem, rfl, fun c' hc ds => ?_⟩
      rw [← hc]
      simp only [List.cons_append, List.nil_append, readEscape?, if_true, hn, if_neg hhigh,
        if_neg hlow]

lemma escaped_letter {e : Char} (he : e ≠ 'u') (h : readEscape? (e :: cs) = some (o, rest)) :
    Escaped (e :: cs) o rest := by
  simp only [readEscape?, if_neg he] at h
  obtain ⟨d, hd, h⟩ := Option.map_eq_some_iff.mp h
  cases h
  have hx : 'x' ≠ e := by
    rintro rfl
    cases hd
  refine ⟨[e], by simpa using hx, rfl, fun c hc ds => ?_⟩
  rw [← hc]
  simp only [List.cons_append, List.nil_append, readEscape?, if_neg he, hd, Option.map_some]

lemma escaped_of_readEscape? (h : readEscape? cs = some (o, rest)) : Escaped cs o rest := by
  rcases cs with _ | ⟨e, ds⟩
  · cases h
  by_cases he : e = 'u'
  · subst he
    rcases ds with _ | ⟨a, _ | ⟨b, _ | ⟨c, _ | ⟨d, es⟩⟩⟩⟩
    · cases h
    · cases h
    · cases h
    · cases h
    · rcases hn : hex4? a b c d with _ | n
      · simp only [readEscape?, if_true, hn] at h
        cases h
      · exact escaped_hex hn h
  · exact escaped_letter he h

end Escapes

/-! ### Strings -/

/-- Bytes that spell a string with a text, when there is one. -/
def Spells (bs : List UInt8) (text? : Option (List Char)) : Prop :=
  ∀ text, text? = some text →
    ∃ cs, bs = cs.flatMap String.utf8EncodeChar ∧ parseString cs = some (some text, [])

lemma spells_none (bs : List UInt8) : Spells bs none := by
  intro text h
  cases h

lemma spells_quote : Spells (String.utf8EncodeChar '"') (some []) := by
  rintro text ⟨⟩
  exact ⟨['"'], by simp, by rw [parseString.eq_def]; rfl⟩

section Strings

variable {bs : List UInt8} {text? : Option (List Char)}

lemma Spells.plain {c : Char} (hq : c ≠ '"') (hs : c ≠ '\\') (hc : ¬ c.toNat < 0x20)
    (h : Spells bs text?) : Spells (String.utf8EncodeChar c ++ bs) (text?.map (c :: ·)) := by
  intro text htext
  obtain ⟨t, ht, rfl⟩ := Option.map_eq_some_iff.mp htext
  obtain ⟨cs, rfl, hcs⟩ := h t ht
  refine ⟨c :: cs, by simp, ?_⟩
  rw [Json.parseString_plain hq hs hc, hcs]
  rfl

lemma Spells.escape {es : List Char} {o : Option Char}
    (he : ∀ c, o = some c → ∀ ds, readEscape? (es ++ ds) = some (some c, ds))
    (h : Spells bs text?) :
    Spells (('\\' :: es).flatMap String.utf8EncodeChar ++ bs)
      (text?.bind fun t => o.map (· :: t)) := by
  intro text htext
  obtain ⟨t, ht, htext⟩ := Option.bind_eq_some_iff.mp htext
  obtain ⟨c, hc, rfl⟩ := Option.map_eq_some_iff.mp htext
  obtain ⟨cs, rfl, hcs⟩ := h t ht
  refine ⟨'\\' :: es ++ cs, by simp, ?_⟩
  rw [List.cons_append, Json.parseString_backslash, he c hc, Option.bind_some, hcs]
  rfl

/-- A string that is read from bytes is spelled by the first of them, and no mark is part of it when
it has a text. -/
lemma read_parseString {cs rest : List Char} (h : Utf8.Read noText bs cs)
    (hp : parseString cs = some (text?, rest)) :
    ∃ head tail, bs = head ++ tail ∧ Spells head text? ∧ Utf8.Read noText tail rest := by
  -- An escape takes several characters, and so does a mark: the induction is on the length.
  induction hn : cs.length using Nat.strong_induction_on generalizing bs cs text? with
  | _ n ih =>
    cases h with
    | nil =>
      rw [parseString.eq_def] at hp
      cases hp
    | @byte b bs cs h =>
      rw [parseString_noText] at hp
      obtain ⟨⟨t, _⟩, hds, hp⟩ := Option.map_eq_some_iff.mp hp
      obtain ⟨rfl, rfl⟩ := Prod.mk.inj hp
      have hlt : cs.length < n := by
        rw [← hn, List.length_append]
        exact Nat.lt_add_of_pos_left (by decide)
      obtain ⟨head, tail, rfl, -, htail⟩ := ih _ hlt h hds rfl
      exact ⟨b :: head, tail, rfl, spells_none _, htail⟩
    | @char c bs cs h =>
      by_cases hquote : c = '"'
      · rw [hquote, parseString.eq_def] at hp
        obtain ⟨rfl, rfl⟩ := Prod.mk.inj (Option.some.inj hp)
        exact ⟨_, bs, by rw [hquote], spells_quote, h⟩
      by_cases hslash : c = '\\'
      · rw [hslash, Json.parseString_backslash] at hp
        obtain ⟨⟨o, ds⟩, hescape, hp⟩ := Option.bind_eq_some_iff.mp hp
        obtain ⟨⟨t, _⟩, hds, hp⟩ := Option.map_eq_some_iff.mp hp
        obtain ⟨rfl, rfl⟩ := Prod.mk.inj hp
        obtain ⟨es, hes, hcs, hread⟩ := escaped_of_readEscape? hescape
        obtain ⟨mid, rfl, hmid⟩ := read_append hes (hcs ▸ h)
        have hlt : ds.length < n := by
          rw [← hn, hcs, List.length_cons, List.length_append]
          omega
        obtain ⟨head, tail, rfl, hhead, htail⟩ := ih _ hlt hmid hds rfl
        exact ⟨_, tail, by simp [hslash], hhead.escape hread, htail⟩
      by_cases hcontrol : c.toNat < 0x20
      · rw [parseString.eq_def] at hp
        simp only [if_neg hquote, if_neg hslash, if_pos hcontrol] at hp
        cases hp
      · rw [Json.parseString_plain hquote hslash hcontrol] at hp
        obtain ⟨⟨t, _⟩, hds, hp⟩ := Option.map_eq_some_iff.mp hp
        obtain ⟨rfl, rfl⟩ := Prod.mk.inj hp
        have hlt : cs.length < n := hn ▸ Nat.lt_succ_self cs.length
        obtain ⟨head, tail, rfl, hhead, htail⟩ := ih _ hlt h hds rfl
        exact ⟨_, tail, (List.append_assoc _ _ _).symm, hhead.plain hquote hslash hcontrol, htail⟩

end Strings

/-! ### Numbers -/

lemma behind_parseExponent? {cs rest : List Char} {n : Int}
    (h : parseExponent? cs = some (n, rest)) : Behind cs rest := by
  unfold parseExponent? at h
  split at h
  next negative ds hsign =>
    have hds : Behind cs ds := by
      split at hsign
      · cases hsign
        exact behind_cons (by decide) _
      · cases hsign
        exact behind_cons (by decide) _
      · cases hsign
        exact behind_refl _
    simp only at h
    split at h
    · cases h
    · obtain ⟨-, rfl⟩ := Prod.mk.inj (Option.some.inj h)
      exact hds.trans (behind_dropWhile rfl _)

/-- What follows the digits of a number. -/
lemma behind_exponent {negative : Bool} {whole fraction : List Char} {n : Numeral}
    {cs rest : List Char}
    (h : (match cs with
      | e :: ds =>
        if e = 'e' ∨ e = 'E' then
          (parseExponent? ds).bind fun x => some (⟨negative, whole, fraction, some x.1⟩, x.2)
        else some (⟨negative, whole, fraction, none⟩, e :: ds)
      | [] => some (⟨negative, whole, fraction, none⟩, [])) = some (n, rest)) : Behind cs rest := by
  split at h
  · next e ds =>
    split at h
    · next he =>
      obtain ⟨x, hx, h⟩ := Option.bind_eq_some_iff.mp h
      obtain ⟨-, rfl⟩ := Prod.mk.inj (Option.some.inj h)
      refine (behind_cons ?_ ds).trans (behind_parseExponent? hx)
      rintro rfl
      simp at he
    · obtain ⟨-, rfl⟩ := Prod.mk.inj (Option.some.inj h)
      exact behind_refl _
  · obtain ⟨-, rfl⟩ := Prod.mk.inj (Option.some.inj h)
    exact behind_refl _

lemma behind_parseNumber? {cs rest : List Char} {n : Numeral}
    (h : parseNumber? cs = some (n, rest)) : Behind cs rest := by
  unfold parseNumber? at h
  split at h
  next negative ds hsign =>
    have hds : Behind cs ds := by
      split at hsign
      · cases hsign
        exact behind_cons (by decide) _
      · cases hsign
        exact behind_refl _
    have hwhole : Behind cs (ds.dropWhile Char.isDigit) := hds.trans (behind_dropWhile rfl ds)
    simp only [Option.bind_eq_bind, Option.bind_some, Option.bind_none, Option.pure_def] at h
    split at h
    · cases h
    split at h
    · next fs hpoint =>
      rw [hpoint] at hwhole
      split at h
      · cases h
      · exact ((hwhole.trans (behind_cons (by decide) fs)).trans (behind_dropWhile rfl fs)).trans
          (behind_exponent h)
    · exact hwhole.trans (behind_exponent h)

/-! ### Documents -/

/-- A text that stands among some bytes as a string in quotes. -/
def Quotes (bytes : List UInt8) (s : String) : Prop :=
  ∃ start quoted rest, bytes = start ++ Utf8.bytes quoted ++ rest ∧
    Json.parse? quoted = some (.string s)

/-- A document whose strings and keys stand among some bytes. -/
inductive Quoted (bytes : List UInt8) : Json → Prop
  | null : Quoted bytes .null
  | bool (b : Bool) : Quoted bytes (.bool b)
  | number (n : Numeral) : Quoted bytes (.number n)
  | unpaired : Quoted bytes .unpaired
  | string {s : String} (h : Quotes bytes s) : Quoted bytes (.string s)
  | array {items : List Json} (h : ∀ j ∈ items, Quoted bytes j) : Quoted bytes (.array items)
  | object {members : List (String × Json)} (hkeys : ∀ m ∈ members, Quotes bytes m.1)
      (h : ∀ m ∈ members, Quoted bytes m.2) : Quoted bytes (.object members)

/-- What is left to read of some bytes. -/
def Ends (bytes : List UInt8) (cs : List Char) : Prop :=
  ∃ start rest, bytes = start ++ rest ∧ Utf8.Read noText rest cs

section Documents

variable {bytes : List UInt8} {cs rest : List Char}

lemma Ends.behind (h : Ends bytes cs) (hrest : Behind cs rest) : Ends bytes rest := by
  obtain ⟨start, bs, rfl, hread⟩ := h
  obtain ⟨es, hes, rfl⟩ := hrest
  obtain ⟨tail, rfl, htail⟩ := read_append hes hread
  exact ⟨_, tail, (List.append_assoc _ _ _).symm, htail⟩

/-- What is left behind a mark of the grammar. -/
lemma Ends.past {c : Char} {ds : List Char} (h : Ends bytes cs) (hc : 'x' ≠ c)
    (hcs : skipSpace cs = c :: ds) : Ends bytes ds :=
  (hcs ▸ h.behind (behind_skipSpace cs)).behind (behind_cons hc ds)

lemma parse?_quoted {text : List Char} (h : parseString cs = some (some text, [])) :
    Json.parse? (String.ofList ('"' :: cs)) = some (.string (String.ofList text)) := by
  rw [Json.parse?, String.toList_ofList, Json.parseChars?, parseValue]
  have hskip : skipSpace ('"' :: cs) = '"' :: cs := rfl
  rw [hskip]
  simp only [h]
  rfl

/-- A string that is left to read. -/
lemma Ends.string {text? : Option (List Char)} (h : Ends bytes ('"' :: cs))
    (hp : parseString cs = some (text?, rest)) :
    Ends bytes rest ∧ ∀ text, text? = some text → Quotes bytes (String.ofList text) := by
  obtain ⟨start, bs, rfl, hread⟩ := h
  have hquote : 'x' ∉ ['"'] := by decide
  obtain ⟨mid, rfl, hmid⟩ := read_append hquote hread
  obtain ⟨head, tail, rfl, hhead, htail⟩ := read_parseString hmid hp
  refine ⟨⟨start ++ String.utf8EncodeChar '"' ++ head, tail, by simp, htail⟩, fun text ht => ?_⟩
  obtain ⟨es, rfl, hes⟩ := hhead text ht
  refine ⟨start, String.ofList ('"' :: es), tail, ?_, parse?_quoted hes⟩
  simp [Utf8.bytes_eq_flatMap]

lemma quoted_objectOf {members : List (Option String × Json)}
    (hkeys : ∀ m ∈ members, ∀ k, m.1 = some k → Quotes bytes k)
    (h : ∀ m ∈ members, Quoted bytes m.2) : Quoted bytes (objectOf members) := by
  rw [objectOf]
  split
  · next ms hms =>
    obtain rfl := Json.eq_map_of_mapM hms
    rw [List.forall_mem_map] at hkeys h
    exact .object (fun m hm => hkeys m hm m.1 rfl) h
  · exact .unpaired

variable (bytes)

/-- Values that are read from an end of the bytes are quoted from them. -/
def ReadsValues (fuel : Nat) : Prop :=
  ∀ cs j rest, Ends bytes cs → parseValue fuel cs = some (j, rest) →
    Ends bytes rest ∧ Quoted bytes j

def ReadsItems (fuel : Nat) : Prop :=
  ∀ cs js rest, Ends bytes cs → parseItems fuel cs = some (js, rest) →
    Ends bytes rest ∧ ∀ j ∈ js, Quoted bytes j

def ReadsMembers (fuel : Nat) : Prop :=
  ∀ cs ms rest, Ends bytes cs → parseMembers fuel cs = some (ms, rest) →
    Ends bytes rest ∧ (∀ m ∈ ms, ∀ k, m.1 = some k → Quotes bytes k) ∧ ∀ m ∈ ms, Quoted bytes m.2

variable {bytes} {fuel : Nat}

lemma readsValues_succ (hitems : ReadsItems bytes fuel) (hmembers : ReadsMembers bytes fuel) :
    ReadsValues bytes (fuel + 1) := by
  intro cs j rest hcs h
  have hskip := hcs.behind (behind_skipSpace cs)
  rw [parseValue] at h
  simp only [Option.bind_eq_bind, Option.pure_def] at h
  split at h
  · next ds hds =>
    obtain ⟨rfl, rfl⟩ := Prod.mk.inj (Option.some.inj h)
    exact ⟨hskip.behind ⟨"null".toList, by decide, hds⟩, .null⟩
  · next ds hds =>
    obtain ⟨rfl, rfl⟩ := Prod.mk.inj (Option.some.inj h)
    exact ⟨hskip.behind ⟨"true".toList, by decide, hds⟩, .bool true⟩
  · next ds hds =>
    obtain ⟨rfl, rfl⟩ := Prod.mk.inj (Option.some.inj h)
    exact ⟨hskip.behind ⟨"false".toList, by decide, hds⟩, .bool false⟩
  · next ds hds =>
    obtain ⟨⟨text?, tail⟩, hp, h⟩ := Option.bind_eq_some_iff.mp h
    obtain ⟨rfl, rfl⟩ := Prod.mk.inj (Option.some.inj h)
    obtain ⟨hrest, hquotes⟩ := (hds ▸ hskip).string hp
    refine ⟨hrest, ?_⟩
    rcases text? with _ | text
    · exact .unpaired
    · exact .string (hquotes text rfl)
  · next ds hds =>
    have hin := hcs.past (by decide) hds
    split at h
    · next es hes =>
      obtain ⟨rfl, rfl⟩ := Prod.mk.inj (Option.some.inj h)
      exact ⟨hin.past (by decide) hes, .array (by simp)⟩
    · obtain ⟨⟨items, tail⟩, hp, h⟩ := Option.bind_eq_some_iff.mp h
      obtain ⟨rfl, rfl⟩ := Prod.mk.inj (Option.some.inj h)
      obtain ⟨hrest, hall⟩ := hitems _ _ _ hin hp
      exact ⟨hrest, .array hall⟩
  · next ds hds =>
    have hin := hcs.past (by decide) hds
    split at h
    · next es hes =>
      obtain ⟨rfl, rfl⟩ := Prod.mk.inj (Option.some.inj h)
      exact ⟨hin.past (by decide) hes, .object (by simp) (by simp)⟩
    · obtain ⟨⟨members, tail⟩, hp, h⟩ := Option.bind_eq_some_iff.mp h
      obtain ⟨rfl, rfl⟩ := Prod.mk.inj (Option.some.inj h)
      obtain ⟨hrest, hkeys, hall⟩ := hmembers _ _ _ hin hp
      exact ⟨hrest, quoted_objectOf hkeys hall⟩
  · obtain ⟨⟨n, tail⟩, hp, h⟩ := Option.bind_eq_some_iff.mp h
    obtain ⟨rfl, rfl⟩ := Prod.mk.inj (Option.some.inj h)
    exact ⟨hskip.behind (behind_parseNumber? hp), .number n⟩

lemma readsItems_succ (hvalues : ReadsValues bytes fuel) (hitems : ReadsItems bytes fuel) :
    ReadsItems bytes (fuel + 1) := by
  intro cs js rest hcs h
  rw [parseItems] at h
  simp only [Option.bind_eq_bind, Option.pure_def] at h
  obtain ⟨⟨j, mid⟩, hj, h⟩ := Option.bind_eq_some_iff.mp h
  obtain ⟨hmid, hquoted⟩ := hvalues _ _ _ hcs hj
  simp only at h
  split at h
  · next ds hds =>
    obtain ⟨⟨js', tail⟩, hjs, h⟩ := Option.bind_eq_some_iff.mp h
    obtain ⟨rfl, rfl⟩ := Prod.mk.inj (Option.some.inj h)
    obtain ⟨htail, hall⟩ := hitems _ _ _ (hmid.past (by decide) hds) hjs
    exact ⟨htail, List.forall_mem_cons.mpr ⟨hquoted, hall⟩⟩
  · next ds hds =>
    obtain ⟨rfl, rfl⟩ := Prod.mk.inj (Option.some.inj h)
    exact ⟨hmid.past (by decide) hds, by simpa using hquoted⟩
  · cases h

lemma readsMembers_succ (hvalues : ReadsValues bytes fuel) (hmembers : ReadsMembers bytes fuel) :
    ReadsMembers bytes (fuel + 1) := by
  intro cs ms rest hcs h
  have hskip := hcs.behind (behind_skipSpace cs)
  rw [parseMembers] at h
  simp only [Option.bind_eq_bind, Option.pure_def] at h
  split at h
  · next ds hds =>
    obtain ⟨⟨key?, mid⟩, hp, h⟩ := Option.bind_eq_some_iff.mp h
    obtain ⟨hmid, hquotes⟩ := (hds ▸ hskip).string hp
    have hkey : ∀ k, key?.map String.ofList = some k → Quotes bytes k := by
      intro k hk
      obtain ⟨text, htext, rfl⟩ := Option.map_eq_some_iff.mp hk
      exact hquotes text htext
    simp only at h
    split at h
    · next es hes =>
      obtain ⟨⟨j, tail⟩, hj, h⟩ := Option.bind_eq_some_iff.mp h
      obtain ⟨htail, hquoted⟩ := hvalues _ _ _ (hmid.past (by decide) hes) hj
      simp only at h
      split at h
      · next fs hfs =>
        obtain ⟨⟨ms', tail'⟩, hms, h⟩ := Option.bind_eq_some_iff.mp h
        obtain ⟨rfl, rfl⟩ := Prod.mk.inj (Option.some.inj h)
        obtain ⟨hend, hkeys, hall⟩ := hmembers _ _ _ (htail.past (by decide) hfs) hms
        exact ⟨hend, List.forall_mem_cons.mpr ⟨hkey, hkeys⟩,
          List.forall_mem_cons.mpr ⟨hquoted, hall⟩⟩
      · next fs hfs =>
        obtain ⟨rfl, rfl⟩ := Prod.mk.inj (Option.some.inj h)
        exact ⟨htail.past (by decide) hfs, by simpa using hkey, by simpa using hquoted⟩
      · cases h
    · cases h
  · cases h

/-- What is read from an end of some bytes is quoted from them. -/
lemma reads (bytes : List UInt8) (fuel : Nat) :
    ReadsValues bytes fuel ∧ ReadsItems bytes fuel ∧ ReadsMembers bytes fuel := by
  induction fuel with
  | zero =>
    refine ⟨fun cs j rest _ h => ?_, fun cs js rest _ h => ?_, fun cs ms rest _ h => ?_⟩
    · rw [parseValue] at h
      cases h
    · rw [parseItems] at h
      cases h
    · rw [parseMembers] at h
      cases h
  | succ fuel ih =>
    obtain ⟨hvalues, hitems, hmembers⟩ := ih
    exact ⟨readsValues_succ hitems hmembers, readsItems_succ hvalues hitems,
      readsMembers_succ hvalues hmembers⟩

/-- **The strings of the claims stand among the bytes that they are read from.** -/
theorem quoted_of_claimsOf? {claims : Json} (h : claimsOf? bytes = some claims) :
    Quoted bytes claims := by
  rw [claimsOf?, Json.parseChars?] at h
  split at h
  · next j rest hj =>
    split at h
    · cases h
      exact ((reads bytes _).1 _ _ _ ⟨[], bytes, rfl, Utf8.read_text noText bytes⟩ hj).2
    · cases h
  · cases h

-- A byte that is no text is not completed by half of a pair that stands behind it.
example : (ofToken "e30.eyJzdWIiOiL_XHVkYzAwIn0.sig").isOk = false := by decide +kernel

end Documents

end Owner

end QueryGate
