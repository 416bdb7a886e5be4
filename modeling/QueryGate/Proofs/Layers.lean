import QueryGate.Proofs.Merging
import QueryGate.Proofs.Results
import QueryGate.Proofs.Sessions

/-!
Settings from layers. A setting has the value of its variable, else that of the first layer that
gives it one, else the standard one. A layer that writes a section as a list or as a date hides what
the layers behind it give there.
-/

namespace QueryGate.Settings

variable {α σ : Type} {e : Environment} {w v : World} {s s' : Settings}

/-! ### Layers -/

/-- What a layer gives in a section: the entries of a table, or the items of a list under the keys
of the section. -/
def given (t : Toml.Table) (name : String) (keys : List String) : Toml.Table :=
  match t.lookup name with
  | some (.table es) => es
  | some (.array items) => keys.zip items
  | _ => []

/-- Whether a layer begins a section anew. -/
def restarts (t : Toml.Table) (name : String) : Bool :=
  match t.lookup name with
  | some (.array _) | some .moment => true
  | _ => false

/-- A setting with the value of the first layer that gives it one. -/
def setting (layers : List Toml.Table) (name : String) (keys : List String) (key : String)
    (read : Toml → Option α) (standard : α) : α :=
  ((layers.findSome? fun t => (given t name keys).lookup key).bind read).getD standard

/-- Settings setting by setting: the value of the variable, if there is one and it is set, else that
of the first layer that gives the setting a value, else the standard value. -/
def ofLayers (e : Environment) (layers : List Toml.Table) : Settings where
  model :=
    { provider? := (e "LLM_PROVIDER").or
        (setting layers "llm" Model.keys "provider" (some <$> string? ·) none)
      key? := ((e "LLM_API_KEY").or (e "OPENAI_API_KEY")).or
        (setting layers "llm" Model.keys "api_key" (some <$> string? ·) none)
      name? := (e "LLM_MODEL").or
        (setting layers "llm" Model.keys "model" (some <$> string? ·) none)
      address? := (e "OLLAMA_URL").or
        (setting layers "llm" Model.keys "ollama_url" (some <$> string? ·)
          (some QueryGate.Model.standardAddress))
      sampling :=
        ⟨setting layers "llm" Model.keys "temperature" (real? Binary.single)
            Sampling.standard.temperature,
          setting layers "llm" Model.keys "top_p" (real? Binary.single) Sampling.standard.topP⟩ }
  retry :=
    { limit := setting layers "retry" Retry.keys "max_retries" (natural? 32) 3
      firstDelay := setting layers "retry" Retry.keys "initial_delay_ms" (natural? 64) 1000
      longestDelay := setting layers "retry" Retry.keys "max_delay_ms" (natural? 64) 30000
      factor := setting layers "retry" Retry.keys "backoff_factor" (real? Binary.double)
        (Binary.ofDecimal Binary.double false 2 0) }
  guard :=
    { action := setting layers "guard" Guard.keys "danger_action" action? .block
      rejectsUnknown :=
        setting layers "guard" Guard.keys "reject_unknown_references" bool? true
      keywords? :=
        setting layers "guard" Guard.keys "dangerous_keywords" (some <$> strings? ·) none
      savepoint := setting layers "guard" Guard.keys "savepoint_name" string?
        Gate.standardSavepoint }
  storage :=
    { root? := (e "SCHEMA_GUARD_STORE").or
        (setting layers "storage" Storage.keys "root" (some <$> string? ·) none) }
  introspection :=
    { schema := setting layers "introspect" Introspection.keys "schema" string?
        QueryGate.Introspection.standardSchema
      tables := setting layers "introspect" Introspection.keys "max_tables" (natural? 32) 200
      enforced := match e "ENFORCE_CATALOG_ONLY" with
        | some text => decide (Text.trim text ≠ "false")
        | none => setting layers "introspect" Introspection.keys "enforce_catalog_only" bool? true
      timeout :=
        setting layers "introspect" Introspection.keys "statement_timeout_secs" (natural? 64) 5 }

/-! ### Sections of two layers -/

/-- A section comes of what a layer gives there, laid over the section that there was or over the
standard one. -/
lemma overlay_of_section? {t : Toml.Table} {name : String} {keys : List String} {had standard a : σ}
    {overlay : σ → Toml.Table → Option σ} (hnothing : ∀ m, overlay m [] = some m)
    (h : section? t name keys had standard overlay = some a) :
    overlay (if restarts t name then standard else had) (given t name keys) = some a := by
  rw [section?] at h
  rw [restarts, given]
  rcases hv : t.lookup name with _ | v
  · rw [hv] at h
    cases h
    exact hnothing had
  · rw [hv] at h
    cases v with
    | table es => exact h
    | array items =>
      simp only at h
      split_ifs at h
      exact h
    | moment =>
      cases h
      exact hnothing standard
    | _ => cases h

/-- A section that one layer and then another was laid over. -/
lemma overlays_of_sections {back front : Toml.Table} {name : String} {keys : List String}
    {standard m m' : σ} {overlay : σ → Toml.Table → Option σ}
    (hnothing : ∀ m, overlay m [] = some m)
    (hback : section? back name keys standard standard overlay = some m)
    (hfront : section? front name keys m standard overlay = some m') :
    overlay standard (given back name keys) = some m ∧
      overlay (if restarts front name then standard else m) (given front name keys) = some m' := by
  refine ⟨?_, overlay_of_section? hnothing hfront⟩
  rw [← overlay_of_section? hnothing hback, ite_self]

/-- The entries of a layer in front of which another layer does not begin their section anew. -/
def unhidden (front t : Toml.Table) : Toml.Table := t.filter fun entry => !restarts front entry.1

lemma lookup_unhidden (front t : Toml.Table) (name : String) :
    (unhidden front t).lookup name = if restarts front name then none else t.lookup name := by
  induction t with
  | nil => simp [unhidden]
  | cons entry t ih =>
    obtain ⟨key, v⟩ := entry
    rw [unhidden] at ih
    rw [unhidden, List.filter_cons, OrderedMap.lookup_cons_eq]
    by_cases hname : name = key
    · subst hname
      rcases hhidden : restarts front name with _ | _
      · simp
      · simp [ih, hhidden]
    · rcases hhidden : restarts front key with _ | _
      · simp [OrderedMap.lookup_cons_eq, hname, ih]
      · simp [hname, ih]

lemma given_unhidden (front t : Toml.Table) (name : String) (keys : List String) :
    given (unhidden front t) name keys =
      if restarts front name then [] else given t name keys := by
  rw [given, lookup_unhidden]
  rcases restarts front name with _ | _
  · rfl
  · rfl

/-! ### Settings of two layers -/

section Sections

variable {front back : Toml.Table}

/-- A setting that one layer and then another was laid over. -/
lemma setting_of_picks {name : String} {keys : List String} {key : String}
    {read : Toml → Option α} {standard m : σ} {a : α} (f : σ → α)
    (hback : pick (given back name keys) key read (f standard) = some (f m))
    (hfront : pick (given front name keys) key read
      (f (if restarts front name then standard else m)) = some a) :
    a = setting [front, unhidden front back] name keys key read (f standard) := by
  rw [setting, List.findSome?_cons, List.findSome?_cons, List.findSome?_nil, given_unhidden]
  rw [pick] at hback hfront
  rcases hv : (given front name keys).lookup key with _ | v
  · rw [hv] at hfront
    cases hfront
    rcases restarts front name with _ | _
    · rcases hu : (given back name keys).lookup key with _ | u
      · rw [hu] at hback
        simpa [hu] using (Option.some.inj hback).symm
      · rw [hu] at hback
        simp [hu, hback]
    · simp
  · rw [hv] at hfront
    simp [hfront]

variable (e : Environment)

lemma Model.inEnvironment_eq {m m' : Model}
    (hback : section? back "llm" Model.keys {} {} Model.overlay = some m)
    (hfront : section? front "llm" Model.keys m {} Model.overlay = some m') :
    m'.inEnvironment e = (ofLayers e [front, unhidden front back]).model := by
  obtain ⟨hback, hfront⟩ := overlays_of_sections (fun _ => rfl) hback hfront
  obtain ⟨hprovider, hkey, hname, haddress, htemperature, htopP⟩ := picks_of_overlay hback
  obtain ⟨hprovider', hkey', hname', haddress', htemperature', htopP'⟩ := picks_of_overlay hfront
  rw [inEnvironment, ofLayers, Model.mk.injEq]
  exact ⟨congrArg _ (setting_of_picks provider? hprovider hprovider'),
    congrArg _ (setting_of_picks key? hkey hkey'),
    congrArg _ (setting_of_picks name? hname hname'),
    congrArg _ (setting_of_picks address? haddress haddress'),
    congrArg₂ Sampling.mk
      (setting_of_picks (fun m : Model => m.sampling.temperature) htemperature htemperature')
      (setting_of_picks (fun m : Model => m.sampling.topP) htopP htopP')⟩

lemma Retry.eq_ofLayers {r r' : Retry}
    (hback : section? back "retry" Retry.keys {} {} Retry.overlay = some r)
    (hfront : section? front "retry" Retry.keys r {} Retry.overlay = some r') :
    r' = (ofLayers e [front, unhidden front back]).retry := by
  obtain ⟨hback, hfront⟩ := overlays_of_sections (fun _ => rfl) hback hfront
  obtain ⟨hlimit, hfirst, hlongest, hfactor⟩ := picks_of_overlay hback
  obtain ⟨hlimit', hfirst', hlongest', hfactor'⟩ := picks_of_overlay hfront
  obtain ⟨limit', firstDelay', longestDelay', factor'⟩ := r'
  rw [ofLayers, Retry.mk.injEq]
  exact ⟨setting_of_picks limit hlimit hlimit', setting_of_picks firstDelay hfirst hfirst',
    setting_of_picks longestDelay hlongest hlongest', setting_of_picks factor hfactor hfactor'⟩

lemma Guard.eq_ofLayers {g g' : Guard}
    (hback : section? back "guard" Guard.keys {} {} Guard.overlay = some g)
    (hfront : section? front "guard" Guard.keys g {} Guard.overlay = some g') :
    g' = (ofLayers e [front, unhidden front back]).guard := by
  obtain ⟨hback, hfront⟩ := overlays_of_sections (fun _ => rfl) hback hfront
  obtain ⟨haction, hrejects, hkeywords, hsavepoint⟩ := picks_of_overlay hback
  obtain ⟨haction', hrejects', hkeywords', hsavepoint'⟩ := picks_of_overlay hfront
  obtain ⟨action', rejectsUnknown', keywords?', savepoint'⟩ := g'
  rw [ofLayers, Guard.mk.injEq]
  exact ⟨setting_of_picks action haction haction',
    setting_of_picks rejectsUnknown hrejects hrejects',
    setting_of_picks keywords? hkeywords hkeywords',
    setting_of_picks savepoint hsavepoint hsavepoint'⟩

lemma Storage.root?_eq {s s' : Storage}
    (hback : section? back "storage" Storage.keys {} {} Storage.overlay = some s)
    (hfront : section? front "storage" Storage.keys s {} Storage.overlay = some s') :
    (e "SCHEMA_GUARD_STORE").or s'.root? =
      (ofLayers e [front, unhidden front back]).storage.root? := by
  obtain ⟨hback, hfront⟩ := overlays_of_sections (fun _ => rfl) hback hfront
  exact congrArg _ (setting_of_picks root? (pick_of_overlay hback) (pick_of_overlay hfront))

lemma Introspection.inEnvironment_eq {i i' : Introspection}
    (hback : section? back "introspect" Introspection.keys {} {} Introspection.overlay = some i)
    (hfront : section? front "introspect" Introspection.keys i {} Introspection.overlay = some i') :
    i'.inEnvironment e = (ofLayers e [front, unhidden front back]).introspection := by
  obtain ⟨hback, hfront⟩ := overlays_of_sections (fun _ => rfl) hback hfront
  obtain ⟨hschema, htables, henforced, htimeout⟩ := picks_of_overlay hback
  obtain ⟨hschema', htables', henforced', htimeout'⟩ := picks_of_overlay hfront
  rw [inEnvironment, ofLayers, Introspection.mk.injEq]
  refine ⟨setting_of_picks schema hschema hschema', setting_of_picks tables htables htables', ?_,
    setting_of_picks timeout htimeout htimeout'⟩
  rcases e "ENFORCE_CATALOG_ONLY" with _ | text
  · exact setting_of_picks enforced henforced henforced'
  · exact Bool.eq_iff_iff.mpr (by simp)

/-- Settings that two layers are laid over one after the other, in an environment. -/
lemma inEnvironment_eq (hback : ({} : Settings).overlay back = some s)
    (hfront : s.overlay front = some s') :
    s'.inEnvironment e = ofLayers e [front, unhidden front back] := by
  obtain ⟨hmodel, hretry, hguard, hstorage, hintrospection⟩ := picks_of_overlay hback
  obtain ⟨hmodel', hretry', hguard', hstorage', hintrospection'⟩ := picks_of_overlay hfront
  rw [inEnvironment, Model.inEnvironment_eq e hmodel hmodel', Retry.eq_ofLayers e hretry hretry',
    Guard.eq_ofLayers e hguard hguard', Storage.root?_eq e hstorage hstorage',
    Introspection.inEnvironment_eq e hintrospection hintrospection']

end Sections

/-! ### Files -/

/-- The table of a file; a file that is not there gives nothing. -/
def layer (w : World) (p : Path) : Toml.Table :=
  match w.disk.read p with
  | .ok text => (Toml.parse? text).getD []
  | .error _ => []

/-- The layer of the home directory, when there is one. -/
def homeLayer (e : Environment) (w : World) : Toml.Table :=
  match e "HOME" with
  | some home => layer w (homeFile home)
  | none => []

lemma run_overlayFile {p : Path} (hs : s.Sound) (h : Action.run w (s.overlayFile p) = (.ok s', v)) :
    v = w ∧ s.overlay (layer w p) = some s' ∧ Toml.areEntriesPlain (layer w p) = true := by
  rw [overlayFile, Action.run_ask_bind, World.answer] at h
  rw [layer]
  rcases hread : w.disk.read p with cause | text
  · rw [hread] at h
    cases cause with
    | notFound | notDirectory =>
      cases h
      exact ⟨rfl, rfl, rfl⟩
    | _ => cases h
  · rw [hread] at h
    simp only [Action.run_liftExcept, Prod.mk.injEq] at h
    obtain ⟨t, ht, hplain, hoverlay⟩ := (overlayText_eq_ok_iff hs).mp h.1
    refine ⟨h.2.symm, ?_, ?_⟩
    · simp only [ht, Option.getD_some, hoverlay]
    · simp only [ht, Option.getD_some, hplain]

/-- Loading lays the home layer over the standard settings, and the other layer over that. -/
lemma overlays_of_run_load (h : (Action.run w (load e)).1 = .ok s) :
    ∃ back front : Settings, ({} : Settings).overlay (homeLayer e w) = some back ∧
      back.overlay (layer w localFile) = some front ∧ s = front.inEnvironment e := by
  have hproject {back : Settings} (hback : ({} : Settings).overlay (homeLayer e w) = some back)
      (hsound : back.Sound) (h : (Action.run w (do
        return (← back.overlayFile localFile).inEnvironment e)).1 = .ok s) :
      ∃ back front : Settings, ({} : Settings).overlay (homeLayer e w) = some back ∧
        back.overlay (layer w localFile) = some front ∧ s = front.inEnvironment e := by
    obtain ⟨front, v, hfront, h⟩ := Action.exists_of_run_bind h
    cases h
    exact ⟨back, front, hback, (run_overlayFile hsound hfront).2.1, rfl⟩
  rw [load] at h
  rcases hvar : e "HOME" with _ | home
  · rw [hvar] at h
    exact hproject (by rw [homeLayer, hvar]; rfl) sound_standard h
  · rw [hvar] at h
    obtain ⟨back, u, hback, hrest⟩ := Action.exists_of_run_bind h
    obtain ⟨rfl, hoverlay, hplain⟩ := run_overlayFile sound_standard hback
    refine hproject ?_ (sound_standard.overlay hplain hoverlay) hrest
    rw [homeLayer, hvar]
    exact hoverlay

/-- **Precedence of layers.** When loading succeeds, each setting has the value of its variable,
else the one that the file in the working directory gives it, else the one that the file in the home
directory gives it, else the standard value. Only a section that the first file writes as a list or
as a date is no longer that of the second one. -/
theorem load_eq_ofLayers (h : Action.run w (load e) = (.ok s, v)) :
    let project := layer w localFile
    let home := homeLayer e w
    s = ofLayers e [project, home.filter fun entry => !restarts project entry.1] ∧
      ((∀ entry ∈ home, restarts project entry.1 = false) → s = ofLayers e [project, home]) := by
  intro project home
  have hmerged : s = ofLayers e [project, unhidden project home] := by
    obtain ⟨back, front, hback, hfront, rfl⟩ := overlays_of_run_load (congrArg Prod.fst h)
    exact inEnvironment_eq e hback hfront
  refine ⟨hmerged, fun hkept => ?_⟩
  have hall : unhidden project home = home :=
    List.filter_eq_self.mpr fun entry hentry => by rw [hkept entry hentry]; rfl
  rw [hmerged, hall]

lemma eq_of_toOption_load (hs : (Action.run w (load e)).1.toOption = some s) :
    Action.run w (load e) = (.ok s, (Action.run w (load e)).2) :=
  Prod.ext (eq_ok_of_toOption hs) rfl

/-- Surroundings with a file in the home directory and another one in the working directory. -/
def twoFiles (back front : String) : World :=
  { World.bare with disk := ⟨.ofList
      [(["/", "home", ".config", "schema-guard", "config.toml"], .file back.toUTF8),
        ([".schema-guard.toml"], .file front.toUTF8)]⟩ }

/-- The home directory of a user, and no other variable. -/
def atHome : Environment := fun name => if name = "HOME" then some "/home" else none

def emptySection : World := twoFiles "[llm]\nmodel = \"m\"\n" "llm = []\n"

/-- An empty list in place of a section: the model that the home layer names is lost. -/
theorem exists_setting_lost : ¬ ∀ (e : Environment) (w : World) (s : Settings) (v : World),
    Action.run w (load e) = (.ok s, v) →
      s = ofLayers e [layer w localFile, homeLayer e w] := by
  intro h
  have hload : (Action.run emptySection (load atHome)).1.toOption.map (·.model.name?) =
      some none := by decide +kernel
  have hnamed : (ofLayers atHome
      [layer emptySection localFile, homeLayer atHome emptySection]).model.name? = some "m" := by
    decide +kernel
  obtain ⟨s, hs, hname⟩ := Option.map_eq_some_iff.mp hload
  have hlayers := h atHome emptySection s _ (eq_of_toOption_load hs)
  rw [hlayers, hnamed] at hname
  cases hname

def twoSections : World :=
  twoFiles "[llm]\nmodel = \"m\"\nprovider = \"anthropic\"\n" "[llm]\nmodel = \"n\"\n"

/-- A model named in both files, and a provider in one. -/
theorem load_twoSections : ∃ s v, Action.run twoSections (load atHome) = (.ok s, v) ∧
    s = ofLayers atHome [layer twoSections localFile, homeLayer atHome twoSections] ∧
    s.model.name? = some "n" ∧ s.model.provider? = some "anthropic" := by
  have hload : (Action.run twoSections (load atHome)).1.toOption.isSome = true := by
    decide +kernel
  have hkept : ∀ entry ∈ homeLayer atHome twoSections,
      restarts (layer twoSections localFile) entry.1 = false := by decide +kernel
  obtain ⟨s, hs⟩ := Option.isSome_iff_exists.mp hload
  have hrun := eq_of_toOption_load hs
  have hlayers := (load_eq_ofLayers hrun).2 hkept
  have hname : (ofLayers atHome [layer twoSections localFile,
      homeLayer atHome twoSections]).model.name? = some "n" := by decide +kernel
  have hprovider : (ofLayers atHome [layer twoSections localFile,
      homeLayer atHome twoSections]).model.provider? = some "anthropic" := by decide +kernel
  exact ⟨s, _, hrun, hlayers, hlayers ▸ hname, hlayers ▸ hprovider⟩

end QueryGate.Settings
