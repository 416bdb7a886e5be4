import QueryGate.Proofs.Sessions

/-!
Two sessions at once in one world. Their requests are answered in any order that keeps the order of
each session. Sessions of a look and one more request come to what they come to in turn, in one
order or the other, unless one has its look before and its request after the other session.
-/

namespace QueryGate

namespace Session

variable {α β : Type} {s : Session α} {t : Session β} {w u v : World} {a : α} {b : β}

/-- Two sessions are run in one world, a request of one or of the other at a time. -/
inductive Interleaved : Session α → Session β → World → α → β → World → Prop
  | done (a : α) (b : β) (w : World) : Interleaved (.done a) (.done b) w a b w
  | left {r : Request} {next : r.Reply → Session α} {t : Session β} {w v : World} {a : α} {b : β}
      (h : Interleaved (next (w.answer r).1) t (w.answer r).2 a b v) :
      Interleaved (.ask r next) t w a b v
  | right {s : Session α} {r : Request} {next : r.Reply → Session β} {w v : World} {a : α} {b : β}
      (h : Interleaved s (next (w.answer r).1) (w.answer r).2 a b v) :
      Interleaved s (.ask r next) w a b v

/-- One session is run as a whole before the other one. -/
def InTurn (s : Session α) (t : Session β) (w : World) (a : α) (b : β) (v : World) : Prop :=
  ∃ u, s.run w = (a, u) ∧ t.run u = (b, v)

lemma Interleaved.symm (h : Interleaved s t w a b v) : Interleaved t s w b a v := by
  induction h with
  | done a b w => exact .done b a w
  | left _ ih => exact .right ih
  | right _ ih => exact .left ih

lemma interleaved_of_run (b : β) (h : s.run w = (a, v)) : Interleaved s (.done b) w a b v := by
  induction s generalizing w with
  | done a' =>
    cases h
    exact .done _ _ _
  | ask r next ih => exact .left (ih _ h)

/-- With nothing left to do on one side the other session is run. -/
lemma run_of_interleaved_done {b' : β} (h : Interleaved s (.done b') w a b v) :
    b = b' ∧ s.run w = (a, v) := by
  generalize ht : (.done b' : Session β) = t at h
  induction h with
  | done a b w =>
    cases ht
    exact ⟨rfl, rfl⟩
  | left _ ih => exact ih ht
  | right _ _ => cases ht

lemma InTurn.interleaved (h : InTurn s t w a b v) : Interleaved s t w a b v := by
  obtain ⟨u, hs, ht⟩ := h
  induction s generalizing w with
  | done a' =>
    cases hs
    exact (interleaved_of_run _ ht).symm
  | ask r next ih => exact .left (ih _ hs)

/-! ### Plans -/

/-- The requests of a session are of some kinds in turn; any of them may be left out. -/
inductive Follows {α : Type} : List (Request → Prop) → Session α → Prop
  | done {Ps : List (Request → Prop)} (a : α) : Follows Ps (.done a)
  | skip {P : Request → Prop} {Ps : List (Request → Prop)} {s : Session α} (h : Follows Ps s) :
      Follows (P :: Ps) s
  | ask {P : Request → Prop} {Ps : List (Request → Prop)} {r : Request}
      {next : r.Reply → Session α} (hr : P r) (hnext : ∀ reply, Follows Ps (next reply)) :
      Follows (P :: Ps) (.ask r next)

variable {P Q : Request → Prop} {Ps Qs : List (Request → Prop)}

lemma Follows.bind {f : α → Session β} (hs : s.Follows Ps) (hf : ∀ a, (f a).Follows Qs) :
    (s.bind f).Follows (Ps ++ Qs) := by
  induction hs with
  | @done Ps a =>
    induction Ps with
    | nil => exact hf a
    | cons P Ps ih => exact .skip ih
  | skip _ ih => exact .skip ih
  | ask hr _ ih => exact .ask hr ih

lemma exists_done_of_follows_nil (h : s.Follows []) : ∃ a, s = .done a := by
  cases h with
  | done a => exact ⟨a, rfl⟩

/-- After the only request of a session nothing is left to do. -/
lemma exists_done_of_follows_one {r : Request} {next : r.Reply → Session α}
    (h : (Session.ask r next).Follows [P]) (reply : r.Reply) : ∃ a, next reply = .done a := by
  cases h with
  | skip h => cases h
  | ask _ hnext => exact exists_done_of_follows_nil (hnext reply)

/-! ### Looks ahead -/

/-- What a session still has to do when it has had a look at a world. -/
def looked (w : World) : Session α → Session α
  | .done a => .done a
  | .ask r next => if r.looks then next (w.answer r).1 else .ask r next

lemma looked_ask {r : Request} (hr : r.looks = true) (next : r.Reply → Session α) (w : World) :
    (Session.ask r next).looked w = next (w.answer r).1 := by rw [looked, if_pos hr]

lemma run_looked_self (w : World) (s : Session α) : (s.looked w).run w = s.run w := by
  cases s with
  | done a => rfl
  | ask r next =>
    rw [looked]
    split
    · next h => rw [run, World.answer_of_looks h]
    · rfl

lemma looked_of_not_looks (h : s.Follows [(·.looks = false)]) (w : World) : s.looked w = s := by
  cases h with
  | done a => rfl
  | skip h =>
    obtain ⟨a, rfl⟩ := exists_done_of_follows_nil h
    rfl
  | ask hr _ => rw [looked, hr, if_neg Bool.false_ne_true]

/-- A session that looks at one world and goes on in another goes on with what it has seen. -/
lemma run_looked_bind {f : α → Session β} (hs : s.Follows [(·.looks = true)])
    (hf : ∀ a, (f a).Follows [(·.looks = false)]) (w u : World) :
    ((s.bind f).looked w).run u = (f (s.run w).1).run u := by
  cases hs with
  | done a => exact congrArg (run u) (looked_of_not_looks (hf a) w)
  | skip h =>
    obtain ⟨a, rfl⟩ := exists_done_of_follows_nil h
    exact congrArg (run u) (looked_of_not_looks (hf a) w)
  | @ask _ _ r next hr hnext =>
    obtain ⟨a, ha⟩ := exists_done_of_follows_nil (hnext (w.answer r).1)
    rw [Session.bind, looked_ask hr, run, ha]
    rfl

/-- A session can look before another one is run, and do the rest afterwards. -/
lemma interleaved_of_looked (h : InTurn t (s.looked w) w b a v) : Interleaved s t w a b v := by
  cases s with
  | done a' => exact h.interleaved.symm
  | ask r next =>
    rw [looked] at h
    split at h
    · next hr =>
      refine .left ?_
      rw [World.answer_of_looks hr]
      exact h.interleaved.symm
    · exact h.interleaved.symm

/-! ### Interleavings of brief sessions -/

lemma inTurn_of_follows_one (hs : s.Follows [P]) (ht : t.Follows [Q])
    (h : Interleaved s t w a b v) : InTurn s t w a b v ∨ InTurn t s w b a v := by
  cases h with
  | done a b w => exact .inl ⟨w, rfl, rfl⟩
  | @left r next _ _ _ _ _ h =>
    obtain ⟨a', ha⟩ := exists_done_of_follows_one hs (w.answer r).1
    rw [ha] at h
    obtain ⟨rfl, hrun⟩ := run_of_interleaved_done h.symm
    exact .inl ⟨_, by rw [run, ha]; rfl, hrun⟩
  | @right _ r next _ _ _ _ h =>
    obtain ⟨b', hb⟩ := exists_done_of_follows_one ht (w.answer r).1
    rw [hb] at h
    obtain ⟨rfl, hrun⟩ := run_of_interleaved_done h
    exact .inr ⟨_, by rw [run, hb]; rfl, hrun⟩

lemma follows_looked {r : Request} {next : r.Reply → Session α} (hr : r.looks = true)
    (hnext : ∀ reply, (next reply).Follows [P]) (w : World) :
    ((Session.ask r next).looked w).Follows [P] := by
  rw [looked_ask hr]
  exact hnext _

lemma InTurn.of_looked (h : InTurn (s.looked w) t w a b v) : InTurn s t w a b v := by
  obtain ⟨u, hs, ht⟩ := h
  exact ⟨u, (run_looked_self w s).symm.trans hs, ht⟩

/-- Next to a session of one request, another one can only have looked before it. -/
lemma inTurn_of_follows_one_two (hs : s.Follows [P]) (ht : t.Follows [(·.looks = true), Q])
    (h : Interleaved s t w a b v) :
    InTurn s t w a b v ∨ InTurn t s w b a v ∨ InTurn s (t.looked w) w a b v := by
  rcases ht with b' | ht | @⟨_, _, r, next, hr, hnext⟩
  · obtain ⟨rfl, hrun⟩ := run_of_interleaved_done h
    exact .inl ⟨v, hrun, rfl⟩
  · exact (inTurn_of_follows_one hs ht h).imp_right .inl
  · cases h with
    | @left q next _ _ _ _ _ h =>
      obtain ⟨a', ha⟩ := exists_done_of_follows_one hs (w.answer q).1
      rw [ha] at h
      obtain ⟨rfl, hrun⟩ := run_of_interleaved_done h.symm
      exact .inl ⟨_, by rw [run, ha]; rfl, hrun⟩
    | right h =>
      rw [World.answer_of_looks hr, ← looked_ask hr next] at h
      rcases inTurn_of_follows_one hs (follows_looked hr hnext w) h with h | h
      · exact .inr (.inr h)
      · exact .inr (.inl h.of_looked)

/-- What two sessions of a look and one more request can come to. -/
def Shuffled (s : Session α) (t : Session β) (w : World) (a : α) (b : β) (v : World) : Prop :=
  InTurn s t w a b v ∨ InTurn t s w b a v ∨
    InTurn s (t.looked w) w a b v ∨ InTurn t (s.looked w) w b a v

lemma Shuffled.symm (h : Shuffled s t w a b v) : Shuffled t s w b a v := by
  rcases h with h | h | h | h
  · exact .inr (.inl h)
  · exact .inl h
  · exact .inr (.inr (.inr h))
  · exact .inr (.inr (.inl h))

/-- The first request is made by the session on the left: its look, or all that it does. -/
lemma shuffled_of_left {r : Request} {next : r.Reply → Session α}
    (hs : (Session.ask r next).Follows [(·.looks = true), P])
    (ht : t.Follows [(·.looks = true), Q])
    (h : Interleaved (next (w.answer r).1) t (w.answer r).2 a b v) :
    Shuffled (.ask r next) t w a b v := by
  cases hs with
  | skip hs =>
    rcases inTurn_of_follows_one_two hs ht h.left with h | h | h
    · exact .inl h
    · exact .inr (.inl h)
    · exact .inr (.inr (.inl h))
  | ask hr hnext =>
    rw [World.answer_of_looks hr, ← looked_ask hr next] at h
    rcases inTurn_of_follows_one_two (follows_looked hr hnext w) ht h with h | h | h
    · exact .inl h.of_looked
    · exact .inr (.inr (.inr h))
    · exact .inr (.inr (.inl h.of_looked))

/-- **Interleavings of two sessions that look once and then make one request.** They are the runs in
turn, in either order, and those in which one session looks, the other one is run as a whole, and
the first then goes on with what it has seen. -/
theorem interleaved_iff (hs : s.Follows [(·.looks = true), P])
    (ht : t.Follows [(·.looks = true), Q]) :
    Interleaved s t w a b v ↔ Shuffled s t w a b v := by
  constructor
  · intro h
    cases h with
    | done a b w => exact .inl ⟨w, rfl, rfl⟩
    | left h => exact shuffled_of_left hs ht h
    | right h => exact (shuffled_of_left ht hs h.symm).symm
  · rintro (h | h | h | h)
    · exact h.interleaved
    · exact h.interleaved.symm
    · exact (interleaved_of_looked h).symm
    · exact interleaved_of_looked h

end Session

namespace Action

variable {α β : Type} {Ps Qs : List (Request → Prop)}

def Follows (Ps : List (Request → Prop)) (x : Action α) : Prop :=
  Session.Follows Ps (ExceptT.run x)

lemma follows_pure (Ps : List (Request → Prop)) (a : α) : Follows Ps (pure a : Action α) := .done _

lemma follows_throw (Ps : List (Request → Prop)) (e : Fault) : Follows Ps (throw e : Action α) :=
  .done _

lemma follows_liftExcept (Ps : List (Request → Prop)) (x : Except Fault α) :
    Follows Ps (liftExcept x : Action α) := by
  rcases x with e | a
  · exact .done _
  · exact .done _

lemma follows_ask {P : Request → Prop} {r : Request} (h : P r) :
    Follows [P] (Action.ask r) := .ask h fun _ => .done _

lemma Follows.bind {x : Action α} {f : α → Action β} (hx : x.Follows Ps)
    (hf : ∀ a, (f a).Follows Qs) : (x >>= f).Follows (Ps ++ Qs) := by
  rw [Follows, ExceptT.run_bind]
  refine Session.Follows.bind hx fun r => ?_
  rcases r with e | a
  · exact .done _
  · exact hf a

lemma Follows.bind_done {x : Action α} {f : α → Action β} (hx : x.Follows Ps)
    (hf : ∀ a, (f a).Follows []) : (x >>= f).Follows Ps := by
  rw [← List.append_nil Ps]
  exact hx.bind hf

lemma follows_liftExcept_bind {x : Except Fault α} {f : α → Action β}
    (hf : ∀ a, (f a).Follows Ps) : ((liftExcept x : Action α) >>= f).Follows Ps :=
  (follows_liftExcept [] x).bind hf

lemma Follows.map {x : Action α} (hx : x.Follows Ps) (f : α → β) : (f <$> x).Follows Ps := by
  rw [← bind_pure_comp]
  exact hx.bind_done fun a => follows_pure [] (f a)

/-- What was seen in one world decides what is done in another. -/
lemma run_looked_bind {x : Action α} {f : α → Action β} (hx : x.Follows [(·.looks = true)])
    (hf : ∀ a, (f a).Follows [(·.looks = false)]) (w u : World) :
    Session.run u (Session.looked w (ExceptT.run (x >>= f))) =
      match (Action.run w x).1 with
      | .ok a => Action.run u (f a)
      | .error e => (.error e, u) := by
  rw [ExceptT.run_bind]
  refine (Session.run_looked_bind hx (fun r => ?_) w u).trans ?_
  · rcases r with e | a
    · exact .done _
    · exact hf a
  · rw [Action.run]
    rcases (Session.run w (ExceptT.run x)).1 with e | a <;> rfl

end Action

end QueryGate
