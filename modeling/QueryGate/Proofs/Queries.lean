import QueryGate.Proofs.Chains
import QueryGate.Proofs.Letters
import QueryGate.Proofs.Maps
import QueryGate.Proofs.Writing

/-!
Queries as a grammar has them, and what is extracted from their text. Every name is written in
quotes or, when it cannot be taken for anything else, as a bare word.
-/

namespace QueryGate

open Lexeme

namespace Query

/-- Words that mean something else where a name may stand. -/
def reserved : List String := "FROM" :: "JOIN" :: "AS" :: Reference.clauseWords

/-- A name as it is written. -/
inductive Name
  | bare (word : String) (isWord : Lexeme.isWord word.toList = true)
      (isFree : ∀ k ∈ reserved, Text.eqIgnoringAsciiCase word k = false)
  | quoted (name : String)

/-- A column with its table or alias. -/
structure Ref where
  qualifier : Name
  column : Name

structure Alias where
  name : Name
  /-- Whether AS stands before the name. -/
  hasAs : Bool

structure Item where
  table : Name
  alias? : Option Alias

/-- That two columns are equal. -/
structure Condition where
  left : Ref
  right : Ref

structure Join where
  item : Item
  condition : Condition

end Query

structure Query where
  column : Query.Ref
  columns : List Query.Ref
  item : Query.Item
  items : List Query.Item
  joins : List Query.Join
  condition? : Option Query.Condition

namespace Query

/-! ### What is written -/

def keyword (k : String) : Lexeme := ⟨.word, k.toList⟩

def dot : Lexeme := ⟨.dot, ['.']⟩

def comma : Lexeme := ⟨.comma, [',']⟩

def equals : Lexeme := ⟨.other, ['=']⟩

def Name.lexeme : Name → Lexeme
  | bare word _ _ => ⟨.word, word.toList⟩
  | quoted name => ⟨.quotedName, (Identifier.quote name).toList⟩

def Ref.lexemes (r : Ref) : List Lexeme := [r.qualifier.lexeme, dot, r.column.lexeme]

def Alias.lexemes (a : Alias) : List Lexeme :=
  if a.hasAs then [keyword "AS", a.name.lexeme] else [a.name.lexeme]

def Item.lexemes (i : Item) : List Lexeme :=
  i.table.lexeme :: (i.alias?.map Alias.lexemes).getD []

def Condition.lexemes (c : Condition) : List Lexeme := c.left.lexemes ++ equals :: c.right.lexemes

def Join.lexemes (j : Join) : List Lexeme :=
  keyword "JOIN" :: (j.item.lexemes ++ keyword "ON" :: j.condition.lexemes)

/-- One thing and more of its kind, with commas between them. -/
def listed {α : Type} (f : α → List Lexeme) (a : α) (as : List α) : List Lexeme :=
  f a ++ as.flatMap fun b => comma :: f b

def restriction (condition? : Option Condition) : List Lexeme :=
  (condition?.map fun c => keyword "WHERE" :: c.lexemes).getD []

def lexemes (q : Query) : List Lexeme :=
  keyword "SELECT" :: (listed Ref.lexemes q.column q.columns ++
    keyword "FROM" :: (listed Item.lexemes q.item q.items ++
      (q.joins.flatMap Join.lexemes ++ restriction q.condition?)))

/-- Whether a text is the query, with any white space and comments between its lexemes. -/
def Writes (q : Query) (sql : String) : Prop := Lexeme.Writes q.lexemes sql.toList

/-- The query on one line. -/
def text (q : Query) : String := String.ofList (spell true q.lexemes)

/-! ### What is meant -/

/-- The text that a name stands for. -/
def Name.value : Name → String
  | bare word _ _ => word
  | quoted name => name

def Ref.reference (r : Ref) : Reference := ⟨Text.lower r.qualifier.value, Text.lower r.column.value⟩

def Item.source (i : Item) : Source :=
  ⟨Text.lower i.table.value, i.alias?.map fun a => Text.lower a.name.value⟩

def Condition.refs (c : Condition) : List Ref := [c.left, c.right]

/-- The columns of a query from left to right. -/
def refs (q : Query) : List Ref :=
  q.column :: q.columns ++ q.joins.flatMap (·.condition.refs) ++
    (q.condition?.map Condition.refs).getD []

/-- The tables of a query from left to right. -/
def allItems (q : Query) : List Item := q.item :: q.items ++ q.joins.map Join.item

/-- The aliases that are given in a query, each with its table. -/
def aliases (q : Query) : List (String × String) :=
  q.allItems.filterMap fun i =>
    i.alias?.map fun a => (Text.lower a.name.value, Text.lower i.table.value)

/-! ### Lexemes -/

lemma Name.simple_lexeme (n : Name) : Simple n.lexeme := by
  cases n with
  | bare word hword => exact .word hword
  | quoted name => exact .quotedName name

lemma Name.identifier?_lexeme (n : Name) : n.lexeme.identifier? = some (Text.lower n.value) := by
  cases n with
  | bare word hword => exact identifier?_word hword
  | quoted name => exact identifier?_quoted name

/-- A name is taken for no reserved word. -/
lemma Name.isKeyword_lexeme (n : Name) {k : String} (hk : k ∈ reserved) :
    n.lexeme.isKeyword k = false := by
  cases n with
  | bare word hword hfree =>
    simp only [lexeme, isKeyword, Lexeme.text, String.ofList_toList, hfree k hk, Bool.and_false]
  | quoted name => rfl

lemma Name.isClauseWord_lexeme (n : Name) :
    Source.isClauseWord Reference.clauseWords n.lexeme = false := by
  cases n with
  | bare word hword hfree =>
    have hnot : Text.upperAscii word ∉ Reference.clauseWords := fun hmem => by
      have hreserved : Text.upperAscii word ∈ reserved := by simp [reserved, hmem]
      have hsame := hfree _ hreserved
      rw [Text.eqIgnoringAsciiCase_upperAscii] at hsame
      cases hsame
    simp [Source.isClauseWord, lexeme, Lexeme.text, hnot]
  | quoted name => rfl

lemma isKeyword_keyword (k : String) : (keyword k).isKeyword k = true := by
  simp [keyword, isKeyword, Lexeme.text, Text.eqIgnoringAsciiCase]

/-! ### All lexemes of a part -/

section Parts

variable {P : Lexeme → Prop} (hname : ∀ n : Name, P n.lexeme)

include hname

lemma Ref.forall_lexemes (hdot : P dot) (r : Ref) : ∀ x ∈ r.lexemes, P x := by
  simp [Ref.lexemes, hname, hdot]

lemma Item.forall_lexemes (has : P (keyword "AS")) (i : Item) : ∀ x ∈ i.lexemes, P x := by
  refine List.forall_mem_cons.mpr ⟨hname i.table, ?_⟩
  rcases i.alias? with _ | a
  · simp
  · simp only [Option.map_some, Option.getD_some, Alias.lexemes]
    split <;> simp [hname, has]

lemma Condition.forall_lexemes (hdot : P dot) (hequals : P equals) (c : Condition) :
    ∀ x ∈ c.lexemes, P x :=
  List.forall_mem_append.mpr ⟨c.left.forall_lexemes hname hdot,
    List.forall_mem_cons.mpr ⟨hequals, c.right.forall_lexemes hname hdot⟩⟩

end Parts

lemma forall_listed {P : Lexeme → Prop} {α : Type} {f : α → List Lexeme} (hcomma : P comma)
    (hf : ∀ a, ∀ x ∈ f a, P x) (a : α) (as : List α) : ∀ x ∈ listed f a as, P x := by
  refine List.forall_mem_append.mpr ⟨hf a, fun x hx => ?_⟩
  obtain ⟨b, -, hx⟩ := List.mem_flatMap.mp hx
  exact (List.forall_mem_cons.mpr ⟨hcomma, hf b⟩) x hx

/-- A query is written with words, quoted names and marks only. -/
lemma simple_lexemes (q : Query) : ∀ x ∈ q.lexemes, Simple x := by
  have hkeyword {k : String} (hk : isWord k.toList = true) : Simple (keyword k) := .word hk
  have hmark : Simple dot ∧ Simple comma ∧ Simple equals :=
    ⟨@Simple.mark '.' (by decide), @Simple.mark ',' (by decide), @Simple.mark '=' (by decide)⟩
  have hcondition := Condition.forall_lexemes Name.simple_lexeme hmark.1 hmark.2.2
  have hitem := Item.forall_lexemes Name.simple_lexeme (hkeyword (by decide))
  have hjoin (j : Join) : ∀ x ∈ j.lexemes, Simple x :=
    List.forall_mem_cons.mpr ⟨hkeyword (by decide), List.forall_mem_append.mpr ⟨hitem j.item,
      List.forall_mem_cons.mpr ⟨hkeyword (by decide), hcondition j.condition⟩⟩⟩
  have hjoins : ∀ x ∈ q.joins.flatMap Join.lexemes, Simple x := fun x hx => by
    obtain ⟨j, -, hx⟩ := List.mem_flatMap.mp hx
    exact hjoin j x hx
  have hrestriction : ∀ x ∈ restriction q.condition?, Simple x := by
    rcases q.condition? with _ | c
    · exact fun _ hx => by cases hx
    · exact List.forall_mem_cons.mpr ⟨hkeyword (by decide), hcondition c⟩
  exact List.forall_mem_cons.mpr ⟨hkeyword (by decide), List.forall_mem_append.mpr
    ⟨forall_listed hmark.2.1 (Ref.forall_lexemes Name.simple_lexeme hmark.1) q.column q.columns,
      List.forall_mem_cons.mpr ⟨hkeyword (by decide), List.forall_mem_append.mpr
        ⟨forall_listed hmark.2.1 hitem q.item q.items,
          List.forall_mem_append.mpr ⟨hjoins, hrestriction⟩⟩⟩⟩⟩

/-- The lexemes of a query behind its FROM list. -/
def clauses (q : Query) : List Lexeme := q.joins.flatMap Join.lexemes ++ restriction q.condition?

lemma clauses_head? (q : Query) :
    ∀ x ∈ q.clauses.head?, x = keyword "JOIN" ∨ x = keyword "WHERE" := by
  rw [clauses]
  rcases q.joins with _ | ⟨j, js⟩
  · rcases q.condition? with _ | c
    · exact fun _ hx => by cases hx
    · exact fun _ hx => .inr (Option.some.inj hx).symm
  · exact fun _ hx => .inl (Option.some.inj hx).symm

lemma lexemes_eq (q : Query) : q.lexemes =
    keyword "SELECT" :: (listed Ref.lexemes q.column q.columns ++
      keyword "FROM" :: (listed Item.lexemes q.item q.items ++ q.clauses)) := rfl

/-! ### References -/

section References

open Reference

variable {xs : List Lexeme}

/-- Lexemes that do not go on with a dot. -/
def Undotted (xs : List Lexeme) : Prop := ∀ x ∈ xs.head?, x.kind ≠ .dot

lemma Name.kind_lexeme (n : Name) : n.lexeme.kind ≠ .dot := by
  cases n <;> exact fun h => by cases h

lemma Ref.undotted (r : Ref) : Undotted (r.lexemes ++ xs) := by
  rintro x hx
  cases hx
  exact r.qualifier.kind_lexeme

lemma Condition.undotted (c : Condition) : Undotted (c.lexemes ++ xs) := by
  rw [lexemes, List.append_assoc]
  exact c.left.undotted

/-- Where no dots are, nothing is referred to. -/
lemma ofLexemes_undotted {ys : List Lexeme} (hys : ∀ y ∈ ys, y.kind ≠ .dot) (hxs : Undotted xs) :
    ofLexemes (ys ++ xs) = ofLexemes xs := by
  induction ys with
  | nil => rfl
  | cons y ys ih =>
    obtain ⟨-, hys⟩ := List.forall_mem_cons.mp hys
    have hrest : Undotted (ys ++ xs) := by
      rcases ys with _ | ⟨z, ys⟩
      · exact hxs
      · rintro x hx
        cases hx
        exact hys z List.mem_cons_self
    rw [List.cons_append, ofLexemes_of_not_link, ih hys]
    rintro ⟨d, x, a, e, hd, -⟩
    exact hrest d (by rw [e]; rfl) hd

lemma ofLexemes_ref (r : Ref) : ofLexemes (r.lexemes ++ xs) = r.reference :: ofLexemes xs :=
  ofLexemes_pair rfl r.qualifier.identifier?_lexeme r.column.identifier?_lexeme xs

lemma ofLexemes_condition (c : Condition) :
    ofLexemes (c.lexemes ++ xs) = c.refs.map Ref.reference ++ ofLexemes xs := by
  rw [Condition.lexemes, List.append_assoc, ofLexemes_ref, List.cons_append,
    ofLexemes_of_not_isName rfl, ofLexemes_ref]
  rfl

lemma listed_cons {α : Type} (f : α → List Lexeme) (a b : α) (bs : List α) :
    listed f a (b :: bs) = f a ++ comma :: listed f b bs := rfl

lemma ofLexemes_listed (r : Ref) (rs : List Ref) :
    ofLexemes (listed Ref.lexemes r rs ++ xs) = (r :: rs).map Ref.reference ++ ofLexemes xs := by
  induction rs generalizing r with
  | nil =>
    rw [listed, List.flatMap_nil, List.append_nil, ofLexemes_ref]
    rfl
  | cons s rs ih =>
    rw [listed_cons, List.append_assoc, ofLexemes_ref, List.cons_append,
      ofLexemes_of_not_isName rfl, ih]
    rfl

lemma Item.kind_lexemes (i : Item) : ∀ x ∈ i.lexemes, x.kind ≠ .dot :=
  i.forall_lexemes Name.kind_lexeme (by decide)

lemma ofLexemes_joins (js : List Join) : ofLexemes (js.flatMap Join.lexemes ++ xs) =
    (js.flatMap (·.condition.refs)).map Ref.reference ++ ofLexemes xs := by
  induction js with
  | nil => rfl
  | cons j js ih =>
    -- ON is taken with what stands before it, so that a column follows
    have hhead : ∀ x ∈ keyword "JOIN" :: (j.item.lexemes ++ [keyword "ON"]), x.kind ≠ .dot :=
      List.forall_mem_cons.mpr ⟨by decide, List.forall_mem_append.mpr
        ⟨j.item.kind_lexemes, List.forall_mem_singleton.mpr (by decide)⟩⟩
    have hassoc : (j :: js).flatMap Join.lexemes ++ xs =
        (keyword "JOIN" :: (j.item.lexemes ++ [keyword "ON"])) ++
          (j.condition.lexemes ++ (js.flatMap Join.lexemes ++ xs)) := by
      simp [Join.lexemes]
    rw [hassoc, ofLexemes_undotted hhead j.condition.undotted, ofLexemes_condition, ih,
      List.flatMap_cons, List.map_append, List.append_assoc]

lemma ofLexemes_restriction (condition? : Option Condition) : ofLexemes (restriction condition?) =
    ((condition?.map Condition.refs).getD []).map Ref.reference := by
  rcases condition? with _ | c
  · rfl
  · have hwhere : restriction (some c) = [keyword "WHERE"] ++ (c.lexemes ++ []) := by
      rw [List.append_nil]
      rfl
    rw [hwhere, ofLexemes_undotted (List.forall_mem_singleton.mpr (by decide)) c.undotted,
      ofLexemes_condition]
    exact List.append_nil _

/-- **The references of a query are its columns.** -/
theorem ofLexemes_lexemes (q : Query) : ofLexemes q.lexemes = q.refs.map Ref.reference := by
  have hselect : ∀ x ∈ [keyword "SELECT"], x.kind ≠ .dot :=
    List.forall_mem_singleton.mpr (by decide)
  have hcolumns (ys : List Lexeme) :
      Undotted (listed Ref.lexemes q.column q.columns ++ ys) := by
    rw [listed, List.append_assoc]
    exact q.column.undotted
  have hfrom : ∀ x ∈ keyword "FROM" :: listed Item.lexemes q.item q.items, x.kind ≠ .dot :=
    List.forall_mem_cons.mpr ⟨by decide, forall_listed (by decide) Item.kind_lexemes _ _⟩
  have hclauses : Undotted q.clauses := fun x hx => by
    rcases q.clauses_head? x hx with rfl | rfl <;> decide
  rw [lexemes_eq, ← List.singleton_append, ofLexemes_undotted hselect (hcolumns _),
    ofLexemes_listed, ← List.cons_append, ofLexemes_undotted hfrom hclauses, clauses,
    ofLexemes_joins, ofLexemes_restriction, refs, List.map_append, List.map_append,
    List.append_assoc]

end References

/-! ### Tables -/

section Tables

variable {xs : List Lexeme}

/-- A lexeme that no table follows. -/
def Inert (x : Lexeme) : Prop := x.isKeyword "FROM" = false ∧ x.isKeyword "JOIN" = false

/-- What may follow a table without an alias. -/
def Stops (xs : List Lexeme) : Prop :=
  ∀ x ∈ xs.head?, x.isKeyword "AS" = false ∧
    (x.identifier? = none ∨ Source.isClauseWord Reference.clauseWords x = true)

lemma Name.inert_lexeme (n : Name) : Inert n.lexeme :=
  ⟨n.isKeyword_lexeme (by decide), n.isKeyword_lexeme (by decide)⟩

/-- Behind lexemes that no table follows, the tables are the same. -/
lemma sources_inert {words : ClauseWords} {ys : List Lexeme} (hys : ∀ y ∈ ys, Inert y) :
    Source.ofLexemes words (ys ++ xs) = Source.ofLexemes words xs := by
  induction ys with
  | nil => rfl
  | cons y ys ih =>
    obtain ⟨⟨hfrom, hjoin⟩, hys⟩ := List.forall_mem_cons.mp hys
    simp [Source.ofLexemes, hfrom, hjoin, ih hys]

lemma read?_item (i : Item) (hxs : Stops xs) :
    Source.read? Reference.clauseWords (i.lexemes ++ xs) = some (i.source, xs) := by
  obtain ⟨table, _ | ⟨name, hasAs⟩⟩ := i
  · have halias : Source.readAlias Reference.clauseWords xs = (none, xs) := by
      rcases xs with _ | ⟨x, xs⟩
      · rfl
      · obtain ⟨has, hx | hx⟩ := hxs x rfl <;> simp [Source.readAlias, Source.readAs, has, hx]
    simp [Item.lexemes, Item.source, Source.read?, table.identifier?_lexeme, halias]
  · have halias : Source.readAlias Reference.clauseWords (Alias.lexemes ⟨name, hasAs⟩ ++ xs) =
        (some (Text.lower name.value), xs) := by
      cases hasAs with
      | true =>
        simp [Alias.lexemes, Source.readAlias, Source.readAs, isKeyword_keyword,
          name.identifier?_lexeme]
      | false =>
        have has : name.lexeme.isKeyword "AS" = false := name.isKeyword_lexeme (by decide)
        simp [Alias.lexemes, Source.readAlias, Source.readAs, has, name.isClauseWord_lexeme,
          name.identifier?_lexeme]
    simp [Item.lexemes, Item.source, Source.read?, table.identifier?_lexeme, halias]

lemma readList_listed (i : Item) (is : List Item) (hxs : Stops xs)
    (hcomma : ∀ x ∈ xs.head?, x.kind ≠ .comma) :
    Source.readList Reference.clauseWords (listed Item.lexemes i is ++ xs) =
      (i :: is).map Item.source := by
  induction is generalizing i with
  | nil =>
    rw [listed, List.flatMap_nil, List.append_nil, Source.readList_of_some (read?_item i hxs)]
    rcases xs with _ | ⟨x, xs⟩
    · rfl
    · simp [hcomma x rfl]
  | cons j is ih =>
    have hstops (ys : List Lexeme) : Stops (comma :: ys) := by
      rintro x hx
      cases hx
      exact ⟨rfl, .inl rfl⟩
    rw [listed_cons, List.append_assoc, List.cons_append,
      Source.readList_of_some (read?_item i (hstops _))]
    simp only [comma, if_true, ih]
    rfl

/-- The words and marks of a query, but for FROM and JOIN, have no table behind them. -/
lemma inert_keywords : (∀ k ∈ ["SELECT", "AS", "ON", "WHERE"], Inert (keyword k)) ∧
    ∀ x ∈ [dot, comma, equals], Inert x := by
  unfold Inert
  decide

lemma inert_keyword {k : String} (hk : k ∈ ["SELECT", "AS", "ON", "WHERE"]) : Inert (keyword k) :=
  inert_keywords.1 k hk

lemma inert_mark {x : Lexeme} (hx : x ∈ [dot, comma, equals]) : Inert x := inert_keywords.2 x hx

lemma Item.inert_lexemes (i : Item) : ∀ x ∈ i.lexemes, Inert x :=
  i.forall_lexemes Name.inert_lexeme (inert_keyword (by decide))

lemma Condition.inert_lexemes (c : Condition) : ∀ x ∈ c.lexemes, Inert x :=
  c.forall_lexemes Name.inert_lexeme (inert_mark (by decide)) (inert_mark (by decide))

/-- A join names its own table. -/
lemma sources_joins (js : List Join) :
    Source.ofLexemes Reference.clauseWords (js.flatMap Join.lexemes ++ xs) =
      (js.map Join.item).map Item.source ++ Source.ofLexemes Reference.clauseWords xs := by
  induction js with
  | nil => rfl
  | cons j js ih =>
    obtain ⟨item, condition⟩ := j
    have hon : Inert (keyword "ON") := inert_keyword (by decide)
    have hstops (ys : List Lexeme) : Stops (keyword "ON" :: ys) := by
      rintro x hx
      cases hx
      exact ⟨by decide, .inr (by decide)⟩
    have hassoc : (⟨item, condition⟩ :: js : List Join).flatMap Join.lexemes ++ xs =
        keyword "JOIN" :: (item.lexemes ++ keyword "ON" :: (condition.lexemes ++
          (js.flatMap Join.lexemes ++ xs))) := by
      simp [Join.lexemes]
    have hinert : ∀ x ∈ item.lexemes ++ keyword "ON" :: condition.lexemes, Inert x :=
      List.forall_mem_append.mpr ⟨item.inert_lexemes,
        List.forall_mem_cons.mpr ⟨hon, condition.inert_lexemes⟩⟩
    -- what was read as the table of the join is gone over again in search of the next one
    have hbehind (ys : List Lexeme) : Source.ofLexemes Reference.clauseWords
        (item.lexemes ++ keyword "ON" :: (condition.lexemes ++ ys)) =
          Source.ofLexemes Reference.clauseWords ys := by
      rw [← List.cons_append, ← List.append_assoc, sources_inert hinert]
    have hfrom : (keyword "JOIN").isKeyword "FROM" = false := by decide
    rw [hassoc, Source.ofLexemes, hfrom, isKeyword_keyword, read?_item item (hstops _), hbehind, ih]
    rfl

/-- **The tables of a query are its items.** -/
theorem sources_lexemes (q : Query) : Source.ofLexemes Reference.clauseWords q.lexemes =
    q.allItems.map Item.source := by
  have hselect : ∀ x ∈ keyword "SELECT" :: listed Ref.lexemes q.column q.columns, Inert x :=
    List.forall_mem_cons.mpr ⟨inert_keyword (by decide), forall_listed (inert_mark (by decide))
      (Ref.forall_lexemes Name.inert_lexeme (inert_mark (by decide))) _ _⟩
  have hlist : ∀ x ∈ listed Item.lexemes q.item q.items, Inert x :=
    forall_listed (inert_mark (by decide)) Item.inert_lexemes _ _
  have hrestriction : ∀ x ∈ restriction q.condition?, Inert x := by
    rcases q.condition? with _ | c
    · exact fun _ hx => by cases hx
    · exact List.forall_mem_cons.mpr ⟨inert_keyword (by decide), c.inert_lexemes⟩
  have hstops : Stops q.clauses := fun x hx => by
    rcases q.clauses_head? x hx with rfl | rfl <;> exact ⟨by decide, .inr (by decide)⟩
  have hcomma : ∀ x ∈ q.clauses.head?, x.kind ≠ .comma := fun x hx => by
    rcases q.clauses_head? x hx with rfl | rfl <;> decide
  have hend : Source.ofLexemes Reference.clauseWords (restriction q.condition?) = [] := by
    rw [← List.append_nil (restriction _), sources_inert hrestriction]
    rfl
  rw [lexemes_eq, ← List.cons_append, sources_inert hselect, Source.ofLexemes, isKeyword_keyword,
    if_pos rfl, readList_listed _ _ hstops hcomma, sources_inert hlist, clauses, sources_joins,
    hend, List.append_nil, allItems, List.map_append]

end Tables

lemma aliases_eq (q : Query) :
    (q.allItems.map Item.source).filterMap (fun s => s.alias?.map (·, s.table)) = q.aliases := by
  rw [List.filterMap_map, aliases]
  refine List.filterMap_congr fun i _ => ?_
  simp [Item.source, Function.comp_def]

/-- **What is extracted from a query is what the query says.** Its text can be written on one line.
However it is written, the references are its columns from left to right; the aliases are those of
its tables, in the order in which they come first, and each stands for the last table it is given
to. -/
theorem extraction_of_writes (q : Query) : q.Writes q.text ∧ ∀ sql, q.Writes sql →
    (Extraction.ofText Reference.clauseWords sql).references = q.refs.map Ref.reference ∧
    (Extraction.ofText Reference.clauseWords sql).aliases.keys =
      (q.aliases.map Prod.fst).eraseDups ∧
    ∀ a, (Extraction.ofText Reference.clauseWords sql).aliases.get? a =
      q.aliases.reverse.lookup a := by
  constructor
  · rw [Writes, text, String.toList_ofList]
    exact writes_spell q.simple_lexemes true
  · intro sql hsql
    have hread : (Layout.ofText sql).lexemes = q.lexemes := lexemes_of_writes hsql q.simple_lexemes
    rw [Extraction.ofText, Extraction.ofLexemes, hread, q.sources_lexemes, q.aliases_eq]
    exact ⟨q.ofLexemes_lexemes, OrderedMap.keys_ofList _, OrderedMap.get?_ofList _⟩

/-- Two tables that are given one alias, a table in quotes that reads like a keyword and has none,
and an alias with a quote in it. -/
def orders : Query where
  column := ⟨.bare "u" (by decide) (by decide), .quoted "Id"⟩
  columns := [⟨.quoted "a\"b", .bare "total" (by decide) (by decide)⟩]
  item := ⟨.bare "Users" (by decide) (by decide), some ⟨.bare "U" (by decide) (by decide), true⟩⟩
  items := [⟨.quoted "From", none⟩, ⟨.quoted "Old", some ⟨.quoted "A\"b", false⟩⟩]
  joins := [⟨⟨.bare "Orders" (by decide) (by decide), some ⟨.quoted "u", false⟩⟩,
    ⟨⟨.quoted "from", .quoted "id"⟩, ⟨.quoted "u", .quoted "Buyer"⟩⟩⟩]
  condition? := some ⟨⟨.quoted "u", .quoted "x"⟩, ⟨.quoted "u", .quoted "y"⟩⟩

theorem extraction_of_writes_orders :
    orders.text = "SELECT u.\"Id\", \"a\"\"b\".total FROM Users AS U, \"From\", " ++
      "\"Old\" \"A\"\"b\" JOIN Orders \"u\" ON \"from\".\"id\" = \"u\".\"Buyer\" " ++
      "WHERE \"u\".\"x\" = \"u\".\"y\"" ∧
    (Extraction.ofText Reference.clauseWords orders.text).references = [⟨"u", "id"⟩,
      ⟨"a\"b", "total"⟩, ⟨"from", "id"⟩, ⟨"u", "buyer"⟩, ⟨"u", "x"⟩, ⟨"u", "y"⟩] ∧
    (Extraction.ofText Reference.clauseWords orders.text).aliases.keys = ["u", "a\"b"] ∧
    (Extraction.ofText Reference.clauseWords orders.text).aliases.get? "u" = some "orders" := by
  obtain ⟨hwrites, hread⟩ := extraction_of_writes orders
  obtain ⟨hrefs, hkeys, hget⟩ := hread _ hwrites
  rw [hrefs, hkeys, hget]
  decide +kernel

end Query

end QueryGate
