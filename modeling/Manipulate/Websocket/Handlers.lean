import Manipulate.Websocket.Subscribe

/-!
# The handlers of the subscription goroutine

What the two handlers of `Subscribe` see while nobody unsubscribes. `Expect.Next` is an automaton
over the goroutine's effects (`Effect`): until a dial succeeds the goroutine only dials;
connected, it reads, and passes each event that passes the filter to `handler(event, nil)`
before it reads again; a receive error is followed by `handler(nil, err)` and by dials, the first
successful one of which is followed by `recoHandler()`. `Pc.expect` is the state of the automaton
the goroutine is in at each of its places.

* `State.expect_step`, `Follows.run`: each step of the goroutine is a step of the automaton or
  leaves its state alone, so while nobody unsubscribes the log is a run of the automaton
  (`Follows`).
* `Expect.recovery_after_redial`, `Expect.recovery_only_after_redial`,
  `Expect.handler_after_error`, `Expect.handler_only_after_error`, `Expect.Run.pending`: what a run
  of the automaton looks like.
* `recovery_once_per_redial`: hence `recoHandler` is called right after each successful dial but
  the first, and at no other time, and `handler(nil, err)` right after each receive error.
* `handled_events_in_order`: `handler(event, nil)` gets the received events that pass the filter,
  in the order they came.
* `empty_identities_drop_events`: with an empty but non-nil `identities`, no event passes the
  filter.
-/

namespace Manipulate.Websocket.Subscribe

/-! ## The automaton -/

/-- What the goroutine may do next: dial (no successful dial yet, or after a receive error and its
handler), call `recoHandler()` after a redial, read or hand the event `pending` to
`handler(event, nil)`, or call `handler(nil, err)` after a receive error. -/
inductive Expect where
  | start
  | redialing
  | recovering
  | reading (pending : Option Event)
  | failed
  deriving DecidableEq, Repr

def Effect.handled : Effect → Option Event
  | .handler e => e
  | _ => none

def Effect.received : Effect → Option Event
  | .recv r => r
  | _ => none

namespace Expect

variable (sub : Subscription)

/-- The effects the automaton allows, and the state each one leads to. -/
inductive Next : Expect → Effect → Expect → Prop
  | dialFailed (url : String) : Next .start (.dial url false) .start
  | dialed (url : String) : Next .start (.dial url true) (.reading none)
  | redialFailed (url : String) : Next .redialing (.dial url false) .redialing
  | redialed (url : String) (h : sub.hasRecoHandler = true) :
      Next .redialing (.dial url true) .recovering
  | redialedNoRecovery (url : String) (h : sub.hasRecoHandler = false) :
      Next .redialing (.dial url true) (.reading none)
  | recovered : Next .recovering .recovery (.reading none)
  | receiveFailed : Next (.reading none) (.recv none) .failed
  | received (e : Event) (h : sub.accepts e = true) :
      Next (.reading none) (.recv (some e)) (.reading (some e))
  | filtered (e : Event) (h : sub.accepts e = false) :
      Next (.reading none) (.recv (some e)) (.reading none)
  | handled (e : Event) : Next (.reading (some e)) (.handler (some e)) (.reading none)
  | errorHandled : Next .failed (.handler none) .redialing

inductive Run : Expect → List Effect → Expect → Prop
  | nil (q : Expect) : Run q [] q
  | cons {q q₁ q₂ : Expect} {e : Effect} {l : List Effect} :
      Next sub q e q₁ → Run q₁ l q₂ → Run q (e :: l) q₂

/-- The event read that still waits for `handler(event, nil)`. -/
def pending : Expect → Option Event
  | .reading p => p
  | _ => none

variable {sub} {q q' : Expect}

theorem Run.append {l₁ l₂ : List Effect} (h : Run sub q (l₁ ++ l₂) q') :
    ∃ q₁, Run sub q l₁ q₁ ∧ Run sub q₁ l₂ q' := by
  induction l₁ generalizing q with
  | nil => exact ⟨q, .nil q, h⟩
  | cons e l ih =>
    obtain _ | ⟨h₁, h₂⟩ := h
    obtain ⟨q₂, h₃, h₄⟩ := ih h₂
    exact ⟨q₂, .cons h₁ h₃, h₄⟩

theorem Run.concat {l : List Effect} {e : Effect} {q₁ : Expect} (h : Run sub q l q₁)
    (h' : Next sub q₁ e q') : Run sub q (l ++ [e]) q' := by
  induction h with
  | nil => exact .cons h' (.nil _)
  | cons h₁ _ ih => exact .cons h₁ (ih h')

theorem Run.last {l : List Effect} {e : Effect} (h : Run sub q (l.concat e) q') :
    ∃ q₁, Run sub q l q₁ ∧ Next sub q₁ e q' := by
  obtain ⟨q₁, h₁, _ | ⟨h₂, ⟨⟩⟩⟩ := (List.concat_eq_append l e ▸ h).append
  exact ⟨q₁, h₁, h₂⟩

/-- The automaton stays at `start` exactly until a dial succeeds. -/
theorem Run.eq_start {l : List Effect} (h : Run sub q l q') :
    q' = .start ↔ q = .start ∧ ¬ ∃ u, .dial u true ∈ l := by
  induction h with
  | nil => simp
  | cons h₁ _ ih =>
    cases h₁ <;> simp only [ih, reduceCtorEq, not_exists, true_and, false_and, List.mem_cons,
      Effect.dial.injEq, Bool.true_eq_false, and_false, and_true, false_or, exists_or_eq_left,
      not_true_eq_false, and_self]

theorem Run.from_recovering {l : List Effect} (h : Run sub .recovering l q') :
    l.head? = some .recovery ∨ l = [] ∧ q' = .recovering := by
  obtain _ | ⟨⟨⟩, _⟩ := h
  · exact .inr ⟨rfl, rfl⟩
  · exact .inl rfl

theorem Run.from_failed {l : List Effect} (h : Run sub .failed l q') :
    l.head? = some (.handler none) ∨ l = [] ∧ q' = .failed := by
  obtain _ | ⟨⟨⟩, _⟩ := h
  · exact .inr ⟨rfl, rfl⟩
  · exact .inl rfl

theorem recovery_after_redial (hreco : sub.hasRecoHandler = true) {l₁ l₂ : List Effect}
    {u : String} (h : Run sub .start (l₁ ++ .dial u true :: l₂) q)
    (hl : ∃ u', .dial u' true ∈ l₁) :
    l₂.head? = some .recovery ∨ l₂ = [] ∧ q = .recovering := by
  obtain ⟨q₁, h₁, _ | ⟨h₂, h₃⟩⟩ := h.append
  have hq₁ : q₁ ≠ .start := fun hq => (h₁.eq_start.1 hq).2 hl
  cases h₂ with
  | dialed => exact absurd rfl hq₁
  | redialed => exact h₃.from_recovering
  | redialedNoRecovery _ h => cases hreco.symm.trans h

theorem recovery_only_after_redial {l₁ l₂ : List Effect}
    (h : Run sub .start (l₁ ++ .recovery :: l₂) q) :
    ∃ l₀ u u', l₁ = l₀ ++ [.dial u true] ∧ .dial u' true ∈ l₀ := by
  obtain ⟨q₁, h₁, _ | ⟨⟨⟩, _⟩⟩ := h.append
  obtain rfl | ⟨l₀, e, rfl⟩ := l₁.eq_nil_or_concat
  · cases h₁
  · obtain ⟨q₀, h₀, ⟨⟩⟩ := h₁.last
    obtain ⟨u', hu'⟩ := not_not.1 fun hl => nomatch h₀.eq_start.2 ⟨rfl, hl⟩
    exact ⟨l₀, _, u', List.concat_eq_append l₀ _, hu'⟩

theorem handler_after_error {l₁ l₂ : List Effect}
    (h : Run sub .start (l₁ ++ .recv none :: l₂) q) :
    l₂.head? = some (.handler none) ∨ l₂ = [] ∧ q = .failed := by
  obtain ⟨q₁, -, _ | ⟨⟨⟩, h₂⟩⟩ := h.append
  exact h₂.from_failed

theorem handler_only_after_error {l₁ l₂ : List Effect}
    (h : Run sub .start (l₁ ++ .handler none :: l₂) q) : ∃ l₀, l₁ = l₀ ++ [.recv none] := by
  obtain ⟨q₁, h₁, _ | ⟨⟨⟩, _⟩⟩ := h.append
  obtain rfl | ⟨l₀, e, rfl⟩ := l₁.eq_nil_or_concat
  · cases h₁
  · obtain ⟨q₀, -, ⟨⟩⟩ := h₁.last
    exact ⟨l₀, List.concat_eq_append l₀ _⟩

theorem Next.pending {e : Effect} (h : Next sub q e q') :
    q.pending.toList ++ ([e].filterMap Effect.received).filter sub.accepts =
      [e].filterMap Effect.handled ++ q'.pending.toList := by
  cases h <;> simp [Expect.pending, Effect.received, Effect.handled, *]

/-- Over a run, the events read that pass the filter are those handled, then the one pending. -/
theorem Run.pending {l : List Effect} (h : Run sub q l q') :
    q.pending.toList ++ (l.filterMap Effect.received).filter sub.accepts =
      l.filterMap Effect.handled ++ q'.pending.toList := by
  induction h with
  | nil => simp
  | @cons q q₁ q₂ e l h₁ _ ih =>
    rw [← List.singleton_append, List.filterMap_append, List.filterMap_append, List.filter_append,
      ← List.append_assoc, h₁.pending, List.append_assoc, ih, List.append_assoc]

end Expect

/-! ## The goroutine follows the automaton -/

/-- The state of the automaton at each place of the goroutine; at `publishing`, that of the place
it goes to next (`afterPublish`). -/
def Pc.expect (sub : Subscription) (needsReco : Bool) : Pc → Expect
  | .top | .dialing _ | .exited | .panicked => if needsReco then .redialing else .start
  | .publishing => if needsReco && sub.hasRecoHandler then .recovering else .reading none
  | .receiving => .reading none
  | .recovering => .recovering
  | .checking none | .failing => .failed
  | .checking (some e) => .reading (if sub.accepts e then some e else none)
  | .handling e => .reading (some e)

def State.expect (sub : Subscription) (s : State) : Expect :=
  s.pc.expect sub s.needsReconnectionHandlerCall

section
variable {sub : Subscription} {s s' : State} {a : Action}

theorem Pc.expect_afterPublish : (afterPublish sub s).expect sub s.needsReconnectionHandlerCall =
    Pc.publishing.expect sub s.needsReconnectionHandlerCall := by
  unfold afterPublish
  split <;> simp only [Pc.expect, *, if_true, Bool.false_eq_true, if_false]

theorem State.expect_dialed {url : String} {ok : Bool} :
    (dialed sub s url ok).expect sub =
      if ok then Pc.publishing.expect sub s.needsReconnectionHandlerCall
      else Pc.top.expect sub s.needsReconnectionHandlerCall := by
  cases ok
  · rfl
  · simp only [dialed, State.expect, if_true]
    split
    · rfl
    · exact Pc.expect_afterPublish

/-- One step of the goroutine while `stopped` is unset logs nothing, or one effect the automaton
allows. -/
theorem State.expect_step (hs : s.stopped = false) (ha : a ≠ .unsubscribe)
    (h : step sub s a = some s') :
    s'.stopped = false ∧ (s'.log = s.log ∧ s'.expect sub = s.expect sub ∨
      ∃ e, s'.log = s.log ++ [e] ∧ Expect.Next sub (s.expect sub) e (s'.expect sub)) := by
  cases a with
  | loopHead =>
    obtain ⟨hpc, ⟨-, rfl⟩ | ⟨-, hst, -⟩ | ⟨-, -, rfl⟩⟩ := step_loopHead h
    · exact ⟨hs, .inl ⟨rfl, by simp only [State.expect, hpc, Pc.expect]⟩⟩
    · cases hs.symm.trans hst
    · exact ⟨hs, .inl ⟨rfl, by simp only [State.expect, hpc, Pc.expect]⟩⟩
  | dial ok =>
    obtain ⟨url, hpc, rfl⟩ := step_dial h
    refine ⟨by cases ok <;> exact hs, .inr ⟨.dial url ok, by cases ok <;> rfl, ?_⟩⟩
    rw [State.expect_dialed, State.expect, hpc]
    cases s.needsReconnectionHandlerCall <;> cases ok <;> cases hr : sub.hasRecoHandler <;>
      simp only [Pc.expect, hr, if_true, Bool.false_eq_true, if_false, Bool.and_self,
        Bool.and_false] <;> constructor <;> assumption
  | publish =>
    obtain ⟨hpc, -, rfl⟩ := step_publish h
    exact ⟨hs, .inl ⟨rfl, by simp only [State.expect, hpc, Pc.expect_afterPublish]⟩⟩
  | recover =>
    obtain ⟨hpc, rfl⟩ := step_recover h
    exact ⟨hs, .inr ⟨_, rfl, by simp only [State.expect, hpc, Pc.expect]; exact .recovered⟩⟩
  | receive r =>
    obtain ⟨hpc, rfl⟩ := step_receive h
    refine ⟨hs, .inr ⟨_, rfl, ?_⟩⟩
    rcases r with _ | e
    · simp only [State.expect, hpc, Pc.expect]
      exact .receiveFailed
    · cases he : sub.accepts e <;>
        simp only [State.expect, hpc, Pc.expect, he, if_true, Bool.false_eq_true, if_false]
      · exact .filtered e he
      · exact .received e he
  | check =>
    obtain ⟨r, hpc, rfl⟩ := step_check h
    refine ⟨hs, .inl ⟨rfl, ?_⟩⟩
    rcases r with _ | e
    · simp only [State.expect, hpc, hs, checked, Pc.expect, Bool.false_eq_true, if_false]
    · cases he : sub.accepts e <;> simp only [State.expect, hpc, hs, checked, Pc.expect, he,
        if_true, Bool.false_eq_true, if_false]
  | handle =>
    obtain ⟨hpc, rfl⟩ | ⟨e, hpc, rfl⟩ := step_handle h <;>
      refine ⟨hs, .inr ⟨_, rfl, ?_⟩⟩ <;> simp only [State.expect, hpc, Pc.expect, if_true]
    · exact .errorHandled
    · exact .handled e
  | unsubscribe => exact absurd rfl ha
  | close =>
    obtain ⟨-, rfl⟩ := step_close h
    exact ⟨hs, .inl ⟨rfl, rfl⟩⟩
  | refresh token =>
    cases step_refresh h
    exact ⟨hs, .inl ⟨rfl, rfl⟩⟩

/-- While nobody unsubscribes, the goroutine's log is a run of the automaton ending in the state of
its place. -/
structure Follows (sub : Subscription) (s : State) : Prop where
  notStopped : s.stopped = false
  log : Expect.Run sub .start s.log (s.expect sub)

theorem Follows.step (hf : Follows sub s) (ha : a ≠ .unsubscribe) (h : step sub s a = some s') :
    Follows sub s' := by
  obtain ⟨hs, ⟨hl, he⟩ | ⟨e, hl, he⟩⟩ := State.expect_step hf.notStopped ha h
  · exact ⟨hs, hl ▸ he ▸ hf.log⟩
  · exact ⟨hs, hl ▸ hf.log.concat he⟩

theorem Follows.init : Follows sub (State.init sub) := ⟨rfl, .nil _⟩

theorem Follows.run {as : List Action} {t : State} (hf : Follows sub s)
    (hno : ∀ a ∈ as, a ≠ .unsubscribe) (h : run sub s as = some t) : Follows sub t :=
  run_preserves_on (Follows sub) (· ≠ .unsubscribe) (fun _ _ _ ha hf h => hf.step ha h) hno hf h

theorem Follows.received_handled (hf : Follows sub s) :
    (s.log.filterMap Effect.received).filter sub.accepts =
      s.log.filterMap Effect.handled ++ (s.expect sub).pending.toList := by
  simpa [Expect.pending] using hf.log.pending

theorem Follows.accepts_of_handled (hf : Follows sub s) {e : Event}
    (he : .handler (some e) ∈ s.log) : sub.accepts e = true := by
  have := List.mem_append_left (s.expect sub).pending.toList
    (List.mem_filterMap.2 ⟨_, he, rfl⟩ : e ∈ s.log.filterMap Effect.handled)
  rw [← hf.received_handled] at this
  exact (List.mem_filter.1 this).2

theorem Pc.eq_of_expect_failed {pc : Pc} {needsReco : Bool}
    (h : pc.expect sub needsReco = .failed) : pc = .checking none ∨ pc = .failing := by
  rcases pc with _ | _ | _ | _ | _ | (_ | e) | _ | _ | _ | _ <;> simp [Pc.expect] at h ⊢ <;>
    split at h <;> cases h

/-! ## Handing over the unsubscribe function -/

/-- The unsubscribe function is handed over before the goroutine reads. -/
structure Handover (s : State) : Prop where
  published : s.needsReconnectionHandlerCall = true ∨ s.pc.connecting = false →
    s.needsPublishDisconnectFunc = false
  firstDial : s.pc = .publishing → s.needsReconnectionHandlerCall = false

theorem afterPublish_ne_publishing : afterPublish sub s ≠ .publishing := by
  unfold afterPublish; split <;> nofun

theorem checked_ne_publishing {stopped : Bool} {r : Option Event} :
    checked sub stopped r ≠ .publishing := by
  unfold checked; split <;> [nofun; (split <;> [nofun; (split <;> nofun)])]

theorem Handover.step (hi : Handover s) (h : step sub s a = some s') : Handover s' := by
  obtain ⟨hpub, hfirst⟩ := hi
  cases a with
  | loopHead =>
    obtain ⟨-, ⟨-, rfl⟩ | ⟨-, -, rfl⟩ | ⟨-, -, rfl⟩⟩ := step_loopHead h <;>
      exact ⟨fun h => hpub (.inl (h.resolve_right Bool.noConfusion)), nofun⟩
  | dial ok =>
    obtain ⟨url, hpc, rfl⟩ := step_dial h
    cases ok
    · exact ⟨fun h => hpub (.inl (h.resolve_right Bool.noConfusion)), nofun⟩
    · cases hp : s.needsPublishDisconnectFunc
      · exact ⟨fun _ => hp,
          fun h => absurd (by simpa [dialed, hp] using h) afterPublish_ne_publishing⟩
      · have hr : s.needsReconnectionHandlerCall = false := by
          cases hr : s.needsReconnectionHandlerCall
          · rfl
          · cases hp.symm.trans (hpub (.inl hr))
        exact ⟨fun h => by simp [dialed, hp, hr, Pc.connecting] at h, fun _ => hr⟩
  | publish =>
    obtain ⟨-, -, rfl⟩ := step_publish h
    exact ⟨fun _ => rfl, fun h => absurd h afterPublish_ne_publishing⟩
  | recover =>
    obtain ⟨hpc, rfl⟩ := step_recover h
    exact ⟨fun _ => hpub (.inr (by rw [hpc]; rfl)), nofun⟩
  | receive r =>
    obtain ⟨hpc, rfl⟩ := step_receive h
    exact ⟨fun _ => hpub (.inr (by rw [hpc]; rfl)), nofun⟩
  | check =>
    obtain ⟨r, hpc, rfl⟩ := step_check h
    exact ⟨fun _ => hpub (.inr (by rw [hpc]; rfl)), fun h => absurd h checked_ne_publishing⟩
  | handle =>
    obtain ⟨hpc, rfl⟩ | ⟨e, hpc, rfl⟩ := step_handle h <;>
      exact ⟨fun _ => hpub (.inr (by rw [hpc]; rfl)), nofun⟩
  | unsubscribe =>
    obtain ⟨-, rfl⟩ := step_unsubscribe h
    exact ⟨hpub, hfirst⟩
  | close =>
    obtain ⟨-, rfl⟩ := step_close h
    exact ⟨hpub, hfirst⟩
  | refresh token =>
    cases step_refresh h
    exact ⟨hpub, hfirst⟩

theorem Handover.reachable (h : Reachable sub s) : Handover s :=
  let ⟨_, h⟩ := h
  run_preserves Handover (fun _ _ _ hi h => hi.step h)
    ⟨fun h => by simp [State.init, Pc.connecting] at h, fun h => by cases h⟩ h

theorem Handover.pc_of_expect (hi : Handover s) (h : s.expect sub = .recovering) :
    s.pc = .recovering := by
  unfold State.expect at h
  rcases hpc : s.pc with _ | _ | _ | _ | _ | (_ | e) | _ | _ | _ | _ <;>
    simp [hpc, Pc.expect, hi.firstDial] at h ⊢ <;> split at h <;> cases h

/-! ## The handlers -/

/-- With a recovery handler and while nobody unsubscribes, every redial is followed by
`recoHandler()` and every receive error by `handler(nil, err)`, and each of these calls only so. -/
theorem recovery_once_per_redial (hreco : sub.hasRecoHandler = true) {as : List Action}
    (hno : ∀ a ∈ as, a ≠ .unsubscribe) {t : State} (h : run sub (State.init sub) as = some t) :
    (∀ l₁ u l₂, t.log = l₁ ++ .dial u true :: l₂ → (∃ u', .dial u' true ∈ l₁) →
        l₂.head? = some .recovery ∨ l₂ = [] ∧ t.pc = .recovering) ∧
      (∀ l₁ l₂, t.log = l₁ ++ .recovery :: l₂ →
        ∃ l₀ u u', l₁ = l₀ ++ [.dial u true] ∧ .dial u' true ∈ l₀) ∧
      (∀ l₁ l₂, t.log = l₁ ++ .recv none :: l₂ →
        l₂.head? = some (.handler none) ∨ l₂ = [] ∧ (t.pc = .checking none ∨ t.pc = .failing)) ∧
      (∀ l₁ l₂, t.log = l₁ ++ .handler none :: l₂ → ∃ l₀, l₁ = l₀ ++ [.recv none]) := by
  have hl := (Follows.init.run hno h).log
  have ho : Handover t := Handover.reachable ⟨as, h⟩
  refine ⟨fun l₁ u l₂ he hd => ?_, fun l₁ l₂ he => Expect.recovery_only_after_redial (he ▸ hl),
    fun l₁ l₂ he => ?_, fun l₁ l₂ he => Expect.handler_only_after_error (he ▸ hl)⟩
  · exact (Expect.recovery_after_redial hreco (he ▸ hl) hd).imp_right
      fun ⟨h₁, h₂⟩ => ⟨h₁, ho.pc_of_expect h₂⟩
  · exact (Expect.handler_after_error (he ▸ hl)).imp_right
      fun ⟨h₁, h₂⟩ => ⟨h₁, Pc.eq_of_expect_failed h₂⟩

/-- While nobody unsubscribes, `handler(event, nil)` gets the events that pass the filter in the
order they were read. -/
theorem handled_events_in_order {as : List Action} (hno : ∀ a ∈ as, a ≠ .unsubscribe)
    {t : State} (h : run sub (State.init sub) as = some t) :
    (t.log.filterMap Effect.received).filter sub.accepts =
      t.log.filterMap Effect.handled ++ (t.expect sub).pending.toList :=
  (Follows.init.run hno h).received_handled

end

theorem recovery_once_per_redial_reconnect :
    let as : List Action := [.loopHead, .dial true, .publish, .receive none, .check, .handle,
      .loopHead, .dial false, .loopHead, .dial true, .recover, .receive (some ⟨"list", "x"⟩),
      .check]
    let t := (run everything (State.init everything) as).getD (State.init everything)
    (∀ l₁ u l₂, t.log = l₁ ++ .dial u true :: l₂ → (∃ u', .dial u' true ∈ l₁) →
        l₂.head? = some .recovery ∨ l₂ = [] ∧ t.pc = .recovering) ∧
      (∀ l₁ l₂, t.log = l₁ ++ .recovery :: l₂ →
        ∃ l₀ u u', l₁ = l₀ ++ [.dial u true] ∧ .dial u' true ∈ l₀) ∧
      (∀ l₁ l₂, t.log = l₁ ++ .recv none :: l₂ →
        l₂.head? = some (.handler none) ∨ l₂ = [] ∧ (t.pc = .checking none ∨ t.pc = .failing)) ∧
      (∀ l₁ l₂, t.log = l₁ ++ .handler none :: l₂ → ∃ l₀, l₁ = l₀ ++ [.recv none]) :=
  @recovery_once_per_redial everything rfl [.loopHead, .dial true, .publish, .receive none, .check,
    .handle, .loopHead, .dial false, .loopHead, .dial true, .recover, .receive (some ⟨"list", "x"⟩),
    .check] (by decide) _ rfl

theorem handled_events_in_order_two_events :
    let as : List Action := [.loopHead, .dial true, .publish, .receive (some ⟨"list", "x"⟩), .check,
      .handle, .receive (some ⟨"task", "y"⟩), .check]
    let t := (run everything (State.init everything) as).getD (State.init everything)
    (t.log.filterMap Effect.received).filter everything.accepts =
      t.log.filterMap Effect.handled ++ (t.expect everything).pending.toList :=
  @handled_events_in_order everything [.loopHead, .dial true, .publish,
    .receive (some ⟨"list", "x"⟩), .check, .handle, .receive (some ⟨"task", "y"⟩), .check]
    (by decide) _ rfl

/-! ## An empty filter -/

def noIdentities : Subscription := { everything with identities := some [] }

/-- With `identities` empty but not nil, no event reaches `handler(event, nil)`. -/
theorem empty_identities_drop_events :
    let e : Event := ⟨"list", "x"⟩
    let s := (run noIdentities (State.init noIdentities)
      [.loopHead, .dial true, .publish, .receive (some e), .check]).getD (State.init noIdentities)
    .recv (some e) ∈ s.log ∧ s.pc = .receiving ∧
      ∀ as t, (∀ a ∈ as, a ≠ .unsubscribe) → run noIdentities s as = some t →
        ∀ e', .handler (some e') ∉ t.log := by
  refine ⟨by decide, rfl, fun as t hno h e' he => ?_⟩
  have hf : Follows noIdentities _ := @Follows.run noIdentities _
    [.loopHead, .dial true, .publish, .receive (some ⟨"list", "x"⟩), .check] _ Follows.init
    (by decide) rfl
  cases (hf.run hno h).accepts_of_handled he

end Manipulate.Websocket.Subscribe
