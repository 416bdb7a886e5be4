import QueryGate.Proofs.Maps
import QueryGate.Proofs.Rounding
import QueryGate.Settings.Files

/-!
Laying a table over settings. The settings are written as a table, the other table is merged into
it, and what comes of it is read over the standard settings: this changes the settings that the
other table gives and no others.
-/

namespace QueryGate

namespace Toml

/-- What takes the place of something that is no table does so as it is. -/
lemma laidOver_eq_self {had? : Option Toml} (h : ∀ had, had? ≠ some (.table had)) (v : Toml) :
    v.laidOver had? = v := by
  cases v with
  | table entries =>
    rcases had? with _ | had
    · rfl
    · cases had with
      | table had => exact absurd rfl (h had)
      | _ => rfl
  | _ => rfl

lemma merge_nil (had : Table) : merge had [] = had := rfl

lemma lookup_merge (had es : Table) (key : String) :
    (merge had es).lookup key = match es.lookup key with
      | some v => some (v.laidOver (had.lookup key))
      | none => had.lookup key := by
  induction es with
  | nil => rfl
  | cons e es ih =>
    rw [merge, OrderedMap.lookup_put, OrderedMap.lookup_cons_eq]
    by_cases h : key = e.1
    · rw [if_pos h, if_pos h, h]
    · rw [if_neg h, if_neg h, ih]

end Toml

namespace Settings

/-! ### Single settings -/

section Pick

variable {α : Type} {base es : Toml.Table} {key : String} {read : Toml → Option α}
  {standard had : α}

/-- A table writes a setting when the setting is read from it; a setting that is left out is the
standard one. -/
def Writes (base : Toml.Table) (key : String) (read : Toml → Option α) (standard had : α) : Prop :=
  match base.lookup key with
  | some v => (∀ es, v ≠ .table es) ∧ read v = some had
  | none => had = standard

lemma pick_merge (h : Writes base key read standard had) (es : Toml.Table) :
    pick (Toml.merge base es) key read standard = pick es key read had := by
  rw [pick, pick, Toml.lookup_merge]
  rw [Writes] at h
  rcases hbase : base.lookup key with _ | old
  · rw [hbase] at h
    rcases es.lookup key with _ | v
    · exact congrArg some h.symm
    · have hnone (had : Toml.Table) : (none : Option Toml) ≠ some (.table had) := nofun
      simp only [Toml.laidOver_eq_self hnone]
  · rw [hbase] at h
    rcases es.lookup key with _ | v
    · exact h.2
    · have hold (had : Toml.Table) : some old ≠ some (.table had) := fun e =>
        h.1 had (Option.some.inj e)
      simp only [Toml.laidOver_eq_self hold]

end Pick

lemma lookup_optional (key k : String) (v? : Option Toml) :
    (optional key v?).lookup k = if k = key then v? else none := by
  rcases v? with _ | v
  · simp [optional]
  · simp [optional, OrderedMap.lookup_cons_eq]

lemma writes_string? {base : Toml.Table} {key : String} {had : Option String}
    (h : base.lookup key = had.map .string) : Writes base key (some <$> string? ·) none had := by
  rw [Writes, h]
  rcases had with _ | s
  · rfl
  · exact ⟨nofun, rfl⟩

/-! ### Sections -/

/-- Settings of a model that are read as they are written: there is an address, and numbers are
those of the shorter format. -/
structure Model.Sound (m : Model) : Prop where
  address : m.address?.isSome = true
  temperature : m.sampling.temperature.Fits Binary.single
  topP : m.sampling.topP.Fits Binary.single

structure Retry.Sound (r : Retry) : Prop where
  limit : r.limit < 2 ^ 32
  firstDelay : r.firstDelay < 2 ^ 63
  longestDelay : r.longestDelay < 2 ^ 63
  factor : r.factor.Fits Binary.double

structure Introspection.Sound (i : Introspection) : Prop where
  tables : i.tables < 2 ^ 32
  timeout : i.timeout < 2 ^ 63

structure Sound (s : Settings) : Prop where
  model : s.model.Sound
  retry : s.retry.Sound
  introspection : s.introspection.Sound

lemma writes_single {base : Toml.Table} {key : String} {standard b : Binary}
    (h : base.lookup key = some (.real (b.convert Binary.double))) (hb : b.Fits Binary.single) :
    Writes base key (real? Binary.single) standard b := by
  rw [Writes, h]
  refine ⟨nofun, ?_⟩
  rw [real?, Binary.convert_convert hb Binary.proper_single.bits Binary.single_within_double]

lemma natural?_natCast {bits n : Nat} (h : n < 2 ^ bits) :
    natural? bits (.integer n) = some n := by
  have hpow : Int.pow 2 bits = ((2 ^ bits : Nat) : Int) := by
    rw [Int.pow_eq, Nat.cast_pow]
    rfl
  rw [natural?, if_pos ⟨Int.natCast_nonneg n, hpow ▸ Int.ofNat_lt.mpr h⟩, Int.toNat_natCast]

/-- What is written under the keys of a section. -/
lemma Model.lookups (m : Model) : m.toTable.lookup "provider" = m.provider?.map .string ∧
    m.toTable.lookup "api_key" = m.key?.map .string ∧
    m.toTable.lookup "model" = m.name?.map .string ∧
    m.toTable.lookup "ollama_url" = m.address?.map .string ∧
    m.toTable.lookup "temperature" =
      some (.real (m.sampling.temperature.convert Binary.double)) ∧
    m.toTable.lookup "top_p" = some (.real (m.sampling.topP.convert Binary.double)) := by
  simp [toTable, List.lookup_append, lookup_optional, OrderedMap.lookup_cons_eq]

lemma Model.overlay_merge {m : Model} (h : m.Sound) (es : Toml.Table) :
    ({} : Model).overlay (Toml.merge m.toTable es) = m.overlay es := by
  obtain ⟨hprovider, hkey, hname, haddress, htemperature, htopP⟩ := m.lookups
  have hwritten : Writes m.toTable "ollama_url" (some <$> string? ·) ({} : Model).address?
      m.address? := by
    obtain ⟨address, hsome⟩ := Option.isSome_iff_exists.mp h.address
    rw [Writes, haddress, hsome]
    exact ⟨nofun, rfl⟩
  rw [overlay, overlay, pick_merge (writes_string? hprovider), pick_merge (writes_string? hkey),
    pick_merge (writes_string? hname), pick_merge hwritten,
    pick_merge (writes_single htemperature h.temperature),
    pick_merge (writes_single htopP h.topP)]

lemma writes_of_read {α : Type} {base : Toml.Table} {key : String} {read : Toml → Option α}
    {standard had : α} {v : Toml} (h : base.lookup key = some v) (htable : ∀ es, v ≠ .table es)
    (hread : read v = some had) : Writes base key read standard had := by
  rw [Writes, h]
  exact ⟨htable, hread⟩

lemma Retry.overlay_merge {r : Retry} (h : r.Sound) (es : Toml.Table) :
    ({} : Retry).overlay (Toml.merge r.toTable es) = r.overlay es := by
  have hlimit : Writes r.toTable "max_retries" (natural? 32) ({} : Retry).limit r.limit :=
    writes_of_read rfl nofun (natural?_natCast h.limit)
  have hfirst : Writes r.toTable "initial_delay_ms" (natural? 64) ({} : Retry).firstDelay
      r.firstDelay := writes_of_read rfl nofun (natural?_natCast (by have := h.firstDelay; omega))
  have hlongest : Writes r.toTable "max_delay_ms" (natural? 64) ({} : Retry).longestDelay
      r.longestDelay :=
    writes_of_read rfl nofun (natural?_natCast (by have := h.longestDelay; omega))
  have hfactor : Writes r.toTable "backoff_factor" (real? Binary.double) ({} : Retry).factor
      r.factor := by
    refine writes_of_read rfl nofun ?_
    rw [real?, Binary.convert_eq_self h.factor Binary.proper_double.bits]
  rw [overlay, overlay, pick_merge hlimit, pick_merge hfirst, pick_merge hlongest,
    pick_merge hfactor]

lemma strings?_map (ks : List String) : strings? (.array (ks.map .string)) = some ks := by
  rw [strings?]
  induction ks with
  | nil => rfl
  | cons k ks ih =>
    rw [List.map_cons, List.mapM_cons, ih]
    rfl

lemma action?_actionName (action : Gate.Action) :
    action? (.string (actionName action)) = some action := by
  cases action <;> rfl

lemma Guard.overlay_merge (g : Guard) (es : Toml.Table) :
    ({} : Guard).overlay (Toml.merge g.toTable es) = g.overlay es := by
  have haction : Writes g.toTable "danger_action" action? ({} : Guard).action g.action :=
    writes_of_read rfl nofun (action?_actionName g.action)
  have hrejects : Writes g.toTable "reject_unknown_references" bool? ({} : Guard).rejectsUnknown
      g.rejectsUnknown := writes_of_read rfl nofun rfl
  have hkeywords : Writes g.toTable "dangerous_keywords" (some <$> strings? ·) none
      g.keywords? := by
    have hlookup : g.toTable.lookup "dangerous_keywords" =
        g.keywords?.map fun ks => .array (ks.map .string) := by
      simp [toTable, List.lookup_append, lookup_optional, OrderedMap.lookup_cons_eq]
    rw [Writes, hlookup]
    rcases g.keywords? with _ | ks
    · rfl
    · exact ⟨nofun, congrArg _ (strings?_map ks)⟩
  have hsavepoint : Writes g.toTable "savepoint_name" string? ({} : Guard).savepoint
      g.savepoint := by
    have hlookup : g.toTable.lookup "savepoint_name" = some (.string g.savepoint) := by
      simp [toTable, List.lookup_append, lookup_optional, OrderedMap.lookup_cons_eq]
    exact writes_of_read hlookup nofun rfl
  rw [overlay, overlay, pick_merge haction, pick_merge hrejects, pick_merge hkeywords,
    pick_merge hsavepoint]

lemma Storage.overlay_merge (s : Storage) (es : Toml.Table) :
    ({} : Storage).overlay (Toml.merge s.toTable es) = s.overlay es := by
  have hroot : s.toTable.lookup "root" = s.root?.map .string := by
    rw [toTable, lookup_optional, if_pos rfl]
  rw [overlay, overlay, pick_merge (writes_string? hroot)]

lemma Introspection.overlay_merge {i : Introspection} (h : i.Sound) (es : Toml.Table) :
    ({} : Introspection).overlay (Toml.merge i.toTable es) = i.overlay es := by
  have hschema : Writes i.toTable "schema" string? ({} : Introspection).schema i.schema :=
    writes_of_read rfl nofun rfl
  have htables : Writes i.toTable "max_tables" (natural? 32) ({} : Introspection).tables
      i.tables := writes_of_read rfl nofun (natural?_natCast h.tables)
  have henforced : Writes i.toTable "enforce_catalog_only" bool? ({} : Introspection).enforced
      i.enforced := writes_of_read rfl nofun rfl
  have htimeout : Writes i.toTable "statement_timeout_secs" (natural? 64)
      ({} : Introspection).timeout i.timeout :=
    writes_of_read rfl nofun (natural?_natCast (by have := h.timeout; omega))
  rw [overlay, overlay, pick_merge hschema, pick_merge htables, pick_merge henforced,
    pick_merge htimeout]

/-! ### Tables of settings -/

/-- A section that is written is laid over by what is given for it, as the section itself is. -/
lemma merge_section? {σ : Type} {base t had : Toml.Table} {name : String} {keys : List String}
    {m standard : σ} {overlay : σ → Toml.Table → Option σ}
    (hlookup : base.lookup name = some (.table had))
    (hmerge : ∀ es, overlay standard (Toml.merge had es) = overlay m es)
    (hnothing : overlay m [] = some m) :
    (section? (Toml.merge base t) name keys standard standard overlay) =
      (section? t name keys m standard overlay) := by
  rw [section?, section?, Toml.lookup_merge, hlookup]
  rcases t.lookup name with _ | v
  · have hsame := (hmerge []).trans hnothing
    rw [Toml.merge_nil] at hsame
    exact hsame
  · cases v with
    | table es => exact hmerge es
    | _ => rfl

/-- **What a layer changes.** A table that is merged into the table of sound settings and read over
the standard settings gives what it gives over the settings themselves. -/
theorem ofTable?_merge {s : Settings} (h : s.Sound) (t : Toml.Table) :
    ofTable? (Toml.merge s.toTable t) = s.overlay t := by
  have hmodel : s.toTable.lookup "llm" = some (.table s.model.toTable) := rfl
  have hretry : s.toTable.lookup "retry" = some (.table s.retry.toTable) := rfl
  have hguard : s.toTable.lookup "guard" = some (.table s.guard.toTable) := rfl
  have hstorage : s.toTable.lookup "storage" = some (.table s.storage.toTable) := rfl
  have hintrospection : s.toTable.lookup "introspect" = some (.table s.introspection.toTable) :=
    rfl
  rw [ofTable?, overlay, overlay, merge_section? hmodel (Model.overlay_merge h.model) rfl,
    merge_section? hretry (Retry.overlay_merge h.retry) rfl,
    merge_section? hguard s.guard.overlay_merge rfl,
    merge_section? hstorage s.storage.overlay_merge rfl,
    merge_section? hintrospection (Introspection.overlay_merge h.introspection) rfl]

/-! ### Settings that stay sound -/

section Pick

variable {α : Type} {I : α → Prop} {t : Toml.Table} {key : String} {read : Toml → Option α}
  {had a : α}

/-- What holds of all that is read and of what there was holds of the setting. -/
lemma pick_keeps (h : pick t key read had = some a)
    (hread : ∀ v, t.lookup key = some v → read v = some a → I a) (hhad : I had) : I a := by
  rw [pick] at h
  rcases hv : t.lookup key with _ | v
  · rw [hv] at h
    cases h
    exact hhad
  · rw [hv] at h
    exact hread v hv h

end Pick

lemma fits_of_real? {f : Binary.Format} (hf : f.Proper) {v : Toml} {b : Binary}
    (h : real? f v = some b) : b.Fits f := by
  cases v with
  | real c =>
    cases h
    exact Binary.fits_convert hf c
  | integer i =>
    rw [real?] at h
    split_ifs at h
    cases h
    exact Binary.fits_ofRatio hf Nat.one_pos _ _
  | _ => cases h

lemma lt_of_natural? {bits n : Nat} {v : Toml} (h : natural? bits v = some n) : n < 2 ^ bits := by
  cases v with
  | integer i =>
    rw [natural?] at h
    split_ifs at h with hi
    cases h
    have hpow : Int.pow 2 bits = ((2 ^ bits : Nat) : Int) := by
      rw [Int.pow_eq, Nat.cast_pow]
      rfl
    omega
  | _ => cases h

/-- An integer of 64 bits with a sign has one bit less when it counts. -/
lemma lt_of_natural?_of_isPlain {bits n : Nat} {v : Toml} (hv : v.isPlain = true)
    (h : natural? bits v = some n) : n < 2 ^ 63 := by
  cases v with
  | integer i =>
    rw [natural?] at h
    split_ifs at h with hi
    cases h
    rw [Toml.isPlain, Toml.isLong, Bool.and_eq_true, decide_eq_true_eq, decide_eq_true_eq] at hv
    have hlong : i < 2 ^ 63 := hv.2
    omega
  | _ => cases h

lemma isPlain_of_lookup {t : Toml.Table} (ht : Toml.areEntriesPlain t = true) {key : String}
    {v : Toml} (h : t.lookup key = some v) : v.isPlain = true := by
  induction t with
  | nil => cases h
  | cons e t ih =>
    rw [Toml.areEntriesPlain, Bool.and_eq_true] at ht
    rw [OrderedMap.lookup_cons_eq] at h
    split_ifs at h
    · cases h
      exact ht.1
    · exact ih ht.2 h

lemma Model.picks_of_overlay {m m' : Model} {t : Toml.Table} (h : m.overlay t = some m') :
    pick t "provider" (some <$> string? ·) m.provider? = some m'.provider? ∧
      pick t "api_key" (some <$> string? ·) m.key? = some m'.key? ∧
      pick t "model" (some <$> string? ·) m.name? = some m'.name? ∧
      pick t "ollama_url" (some <$> string? ·) m.address? = some m'.address? ∧
      pick t "temperature" (real? Binary.single) m.sampling.temperature =
        some m'.sampling.temperature ∧
      pick t "top_p" (real? Binary.single) m.sampling.topP = some m'.sampling.topP := by
  simp only [overlay, Option.bind_eq_bind, Option.bind_eq_some_iff, Option.pure_def,
    Option.some.injEq] at h
  obtain ⟨a, ha, b, hb, c, hc, d, hd, e, he, f, hf, rfl⟩ := h
  exact ⟨ha, hb, hc, hd, he, hf⟩

lemma Retry.picks_of_overlay {r r' : Retry} {t : Toml.Table} (h : r.overlay t = some r') :
    pick t "max_retries" (natural? 32) r.limit = some r'.limit ∧
      pick t "initial_delay_ms" (natural? 64) r.firstDelay = some r'.firstDelay ∧
      pick t "max_delay_ms" (natural? 64) r.longestDelay = some r'.longestDelay ∧
      pick t "backoff_factor" (real? Binary.double) r.factor = some r'.factor := by
  simp only [overlay, Option.bind_eq_bind, Option.bind_eq_some_iff, Option.pure_def,
    Option.some.injEq] at h
  obtain ⟨a, ha, b, hb, c, hc, d, hd, rfl⟩ := h
  exact ⟨ha, hb, hc, hd⟩

lemma Guard.picks_of_overlay {g g' : Guard} {t : Toml.Table} (h : g.overlay t = some g') :
    pick t "danger_action" action? g.action = some g'.action ∧
      pick t "reject_unknown_references" bool? g.rejectsUnknown = some g'.rejectsUnknown ∧
      pick t "dangerous_keywords" (some <$> strings? ·) g.keywords? = some g'.keywords? ∧
      pick t "savepoint_name" string? g.savepoint = some g'.savepoint := by
  simp only [overlay, Option.bind_eq_bind, Option.bind_eq_some_iff, Option.pure_def,
    Option.some.injEq] at h
  obtain ⟨a, ha, b, hb, c, hc, d, hd, rfl⟩ := h
  exact ⟨ha, hb, hc, hd⟩

lemma Storage.pick_of_overlay {s s' : Storage} {t : Toml.Table} (h : s.overlay t = some s') :
    pick t "root" (some <$> string? ·) s.root? = some s'.root? := by
  simp only [overlay, Option.bind_eq_bind, Option.bind_eq_some_iff, Option.pure_def,
    Option.some.injEq] at h
  obtain ⟨a, ha, rfl⟩ := h
  exact ha

lemma Introspection.picks_of_overlay {i i' : Introspection} {t : Toml.Table}
    (h : i.overlay t = some i') :
    pick t "schema" string? i.schema = some i'.schema ∧
      pick t "max_tables" (natural? 32) i.tables = some i'.tables ∧
      pick t "enforce_catalog_only" bool? i.enforced = some i'.enforced ∧
      pick t "statement_timeout_secs" (natural? 64) i.timeout = some i'.timeout := by
  simp only [overlay, Option.bind_eq_bind, Option.bind_eq_some_iff, Option.pure_def,
    Option.some.injEq] at h
  obtain ⟨a, ha, b, hb, c, hc, d, hd, rfl⟩ := h
  exact ⟨ha, hb, hc, hd⟩

lemma picks_of_overlay {s s' : Settings} {t : Toml.Table} (h : s.overlay t = some s') :
    (section? t "llm" Model.keys s.model {} Model.overlay) = some s'.model ∧
      (section? t "retry" Retry.keys s.retry {} Retry.overlay) = some s'.retry ∧
      (section? t "guard" Guard.keys s.guard {} Guard.overlay) = some s'.guard ∧
      (section? t "storage" Storage.keys s.storage {} Storage.overlay) = some s'.storage ∧
      (section? t "introspect" Introspection.keys s.introspection {} Introspection.overlay) =
        some s'.introspection := by
  simp only [overlay, Option.bind_eq_bind, Option.bind_eq_some_iff, Option.pure_def,
    Option.some.injEq] at h
  obtain ⟨a, ha, b, hb, c, hc, d, hd, e, he, rfl⟩ := h
  exact ⟨ha, hb, hc, hd, he⟩

lemma Model.Sound.overlay {m m' : Model} (hm : m.Sound) {t : Toml.Table}
    (h : m.overlay t = some m') : m'.Sound := by
  obtain ⟨-, -, -, haddress, htemperature, htopP⟩ := Model.picks_of_overlay h
  refine ⟨pick_keeps (I := (·.isSome = true)) haddress (fun v _ hv => ?_) hm.address,
    pick_keeps htemperature (fun v _ hv => fits_of_real? Binary.proper_single hv) hm.temperature,
    pick_keeps htopP (fun v _ hv => fits_of_real? Binary.proper_single hv) hm.topP⟩
  obtain ⟨address, -, hsome⟩ := Option.map_eq_some_iff.mp hv
  rw [← hsome]
  rfl

lemma Retry.Sound.overlay {r r' : Retry} (hr : r.Sound) {t : Toml.Table}
    (ht : Toml.areEntriesPlain t = true) (h : r.overlay t = some r') : r'.Sound := by
  obtain ⟨hlimit, hfirst, hlongest, hfactor⟩ := Retry.picks_of_overlay h
  exact ⟨pick_keeps (I := (· < 2 ^ 32)) hlimit (fun v _ hv => lt_of_natural? hv) hr.limit,
    pick_keeps (I := (· < 2 ^ 63)) hfirst (fun v hget hv =>
      lt_of_natural?_of_isPlain (isPlain_of_lookup ht hget) hv) hr.firstDelay,
    pick_keeps (I := (· < 2 ^ 63)) hlongest (fun v hget hv =>
      lt_of_natural?_of_isPlain (isPlain_of_lookup ht hget) hv) hr.longestDelay,
    pick_keeps hfactor (fun v _ hv => fits_of_real? Binary.proper_double hv) hr.factor⟩

lemma Introspection.Sound.overlay {i i' : Introspection} (hi : i.Sound) {t : Toml.Table}
    (ht : Toml.areEntriesPlain t = true) (h : i.overlay t = some i') : i'.Sound := by
  obtain ⟨-, htables, -, htimeout⟩ := Introspection.picks_of_overlay h
  exact ⟨pick_keeps (I := (· < 2 ^ 32)) htables (fun v _ hv => lt_of_natural? hv) hi.tables,
    pick_keeps (I := (· < 2 ^ 63)) htimeout (fun v hget hv =>
      lt_of_natural?_of_isPlain (isPlain_of_lookup ht hget) hv) hi.timeout⟩

lemma areEntriesPlain_zip {items : List Toml} (h : Toml.areItemsPlain items = true)
    (keys : List String) : Toml.areEntriesPlain (keys.zip items) = true := by
  induction items generalizing keys with
  | nil =>
    rw [List.zip_nil_right]
    rfl
  | cons v vs ih =>
    rw [Toml.areItemsPlain, Bool.and_eq_true] at h
    cases keys with
    | nil => rfl
    | cons key keys =>
      rw [List.zip_cons_cons, Toml.areEntriesPlain, h.1, ih h.2]
      rfl

/-- What the entries of a section keep of it, the section keeps. -/
lemma keeps_of_section? {σ : Type} {I : σ → Prop} {t : Toml.Table} {name : String}
    {keys : List String} {had standard a : σ} {overlay : σ → Toml.Table → Option σ}
    (h : section? t name keys had standard overlay = some a)
    (ht : Toml.areEntriesPlain t = true)
    (hkeeps : ∀ {m m' es}, I m → Toml.areEntriesPlain es = true → overlay m es = some m' → I m')
    (hhad : I had) (hstandard : I standard) : I a := by
  rw [section?] at h
  rcases hv : t.lookup name with _ | v
  · rw [hv] at h
    cases h
    exact hhad
  · have hplain := isPlain_of_lookup ht hv
    rw [hv] at h
    cases v with
    | table es => exact hkeeps hhad hplain h
    | array items =>
      simp only at h
      split_ifs at h
      exact hkeeps hstandard (areEntriesPlain_zip hplain keys) h
    | moment =>
      cases h
      exact hstandard
    | _ => cases h

lemma fits_standard : Sampling.standard.temperature.Fits Binary.single ∧
    Sampling.standard.topP.Fits Binary.single := by
  rw [Sampling.standard]
  exact ⟨Binary.fits_ofDecimal Binary.proper_single false 1 (-1),
    Binary.fits_ofDecimal Binary.proper_single false 9 (-1)⟩

lemma sound_standard : ({} : Settings).Sound where
  model := ⟨rfl, fits_standard.1, fits_standard.2⟩
  retry := ⟨by decide, by decide, by decide, Binary.fits_ofDecimal Binary.proper_double false 2 0⟩
  introspection := ⟨by decide, by decide⟩

/-- Settings stay sound. -/
lemma Sound.overlay {s s' : Settings} (hs : s.Sound) {t : Toml.Table}
    (ht : Toml.areEntriesPlain t = true) (h : s.overlay t = some s') : s'.Sound := by
  obtain ⟨hmodel, hretry, -, -, hintrospection⟩ := picks_of_overlay h
  exact ⟨keeps_of_section? hmodel ht (fun hm _ => hm.overlay) hs.model sound_standard.model,
    keeps_of_section? hretry ht (fun hr => hr.overlay) hs.retry sound_standard.retry,
    keeps_of_section? hintrospection ht (fun hi => hi.overlay) hs.introspection
      sound_standard.introspection⟩

/-! ### Merging -/

lemma areEntriesPlain_append (t u : Toml.Table) :
    Toml.areEntriesPlain (t ++ u) = (Toml.areEntriesPlain t && Toml.areEntriesPlain u) := by
  induction t with
  | nil => rfl
  | cons e t ih => rw [List.cons_append, Toml.areEntriesPlain, Toml.areEntriesPlain, ih,
      Bool.and_assoc]

lemma areEntriesPlain_optional {key : String} {v? : Option Toml}
    (h : ∀ v, v? = some v → v.isPlain = true) : Toml.areEntriesPlain (optional key v?) = true := by
  rcases v? with _ | v
  · rfl
  · rw [optional, Option.map_some, Option.toList_some, Toml.areEntriesPlain, h v rfl]
    rfl

lemma areEntriesPlain_string (key : String) (s? : Option String) :
    Toml.areEntriesPlain (optional key (s?.map .string)) = true := by
  refine areEntriesPlain_optional fun v hv => ?_
  obtain ⟨s, -, rfl⟩ := Option.map_eq_some_iff.mp hv
  rfl

lemma isPlain_natCast {n : Nat} (h : n < 2 ^ 63) : (Toml.integer n).isPlain = true := by
  have hlow : -Int.pow 2 63 ≤ (n : Int) := by
    have : (0 : Int) ≤ n := Int.natCast_nonneg n
    have : (0 : Int) ≤ Int.pow 2 63 := by decide
    omega
  have hhigh : (n : Int) < Int.pow 2 63 := by
    have : ((2 ^ 63 : Nat) : Int) = Int.pow 2 63 := by decide
    omega
  rw [Toml.isPlain, Toml.isLong, decide_eq_true hlow, decide_eq_true hhigh]
  rfl

lemma Model.areEntriesPlain_toTable (m : Model) : Toml.areEntriesPlain m.toTable = true := by
  simp only [toTable, areEntriesPlain_append, areEntriesPlain_string]
  rfl

lemma Retry.Sound.areEntriesPlain {r : Retry} (h : r.Sound) :
    Toml.areEntriesPlain r.toTable = true := by
  have hlimit := h.limit
  simp only [toTable, Toml.areEntriesPlain, isPlain_natCast h.firstDelay,
    isPlain_natCast h.longestDelay, isPlain_natCast (Nat.lt_trans hlimit (by decide))]
  rfl

lemma Guard.areEntriesPlain_toTable (g : Guard) : Toml.areEntriesPlain g.toTable = true := by
  have hkeywords : Toml.areEntriesPlain (optional "dangerous_keywords"
      (g.keywords?.map fun ks => .array (ks.map .string))) = true := by
    refine areEntriesPlain_optional fun v hv => ?_
    obtain ⟨ks, -, rfl⟩ := Option.map_eq_some_iff.mp hv
    clear hv
    rw [Toml.isPlain]
    induction ks with
    | nil => rfl
    | cons k ks ih => rw [List.map_cons, Toml.areItemsPlain, ih]; rfl
  simp only [toTable, areEntriesPlain_append, hkeywords]
  rfl

lemma Introspection.Sound.areEntriesPlain {i : Introspection} (h : i.Sound) :
    Toml.areEntriesPlain i.toTable = true := by
  simp only [toTable, Toml.areEntriesPlain, isPlain_natCast h.timeout,
    isPlain_natCast (Nat.lt_trans h.tables (by decide))]
  rfl

lemma Sound.areEntriesPlain {s : Settings} (h : s.Sound) :
    Toml.areEntriesPlain s.toTable = true := by
  simp only [toTable, Toml.areEntriesPlain, Toml.isPlain, Model.areEntriesPlain_toTable,
    h.retry.areEntriesPlain, Guard.areEntriesPlain_toTable, Storage.toTable,
    areEntriesPlain_string, h.introspection.areEntriesPlain, Bool.and_self]

/-- What merging a table into sound settings comes to. -/
lemma mergeTable_eq {s : Settings} (h : s.Sound) (t : Toml.Table) :
    s.mergeTable t = match s.overlay t with
      | some s => .ok s
      | none => .error malformed := by
  rw [mergeTable, h.areEntriesPlain, ofTable?_merge h]
  rfl

/-- A text that is merged is that of a table with integers of 64 bits. -/
lemma overlayText_eq_ok_iff {s s' : Settings} (h : s.Sound) {text : String} :
    s.overlayText text = .ok s' ↔ ∃ t, Toml.parse? text = some t ∧
      Toml.areEntriesPlain t = true ∧ s.overlay t = some s' := by
  rw [overlayText]
  rcases Toml.parse? text with _ | t
  · simp
  · by_cases ht : Toml.areEntriesPlain t = true
    · simp only [if_pos ht, mergeTable_eq h]
      rcases hs : s.overlay t with _ | s''
      · simp [hs]
      · simp [ht, hs]
    · simp [ht]

end Settings

end QueryGate
