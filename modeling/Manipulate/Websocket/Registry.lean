import Manipulate.Websocket.Step

/-!
# The response registry

`RegistryInv`: every entry `r ↦ c` of `responsesChanRegistry` is the channel the call of `send`
for `r` made (`chanOwner`) and still holds (`SendPc.chan`: registered, not yet unregistered);
`listen` delivers a response only on the channel of the `send` for the response's request ID,
so a `send` receives and returns only responses to its own request. It holds initially and
every step keeps it, whatever the order, repetition or lateness of the server's responses and
whatever the reconnects (`connect` only empties the registry): `registry_invariant`.

Two ways the code loses a response or `listen` itself:

* `send` writes the request before it registers its channel, so a response read in between
  finds no entry and is dropped, and the `send` times out (`response_dropped_before_register`).
* the channel is unbuffered: once `listen` holds the channel of a `send` that then times out,
  no step can take the response, and `listen` never reads the socket again
  (`listen_stuck_forever`, from `Stuck`, a trap kept by every step).
-/

namespace Manipulate.Websocket

/-- The channel a call of `send` registered and has not yet unregistered. -/
def SendPc.chan : SendPc → Option Nat
  | .waiting c | .answered c _ | .timedOut c => some c
  | _ => none

/-- The call of `send` has started and not returned. -/
def SendPc.inFlight : SendPc → Bool
  | .checked | .written | .waiting _ | .answered _ _ | .timedOut _ => true
  | _ => false

theorem SendPc.inFlight_of_chan {pc : SendPc} {c : Nat} (h : pc.chan = some c) :
    pc.inFlight = true := by
  cases pc <;> simp_all [chan, inFlight]

/-- The registry invariant (module doc). -/
structure RegistryInv (s : State) : Prop where
  entry : ∀ r c, s.responsesChanRegistry r = some c → (s.callers r).chan = some c
  owner : ∀ r c, (s.callers r).chan = some c → s.chanOwner c = some r
  fresh : ∀ c, s.nextChan ≤ c → s.chanOwner c = none
  delivering : ∀ c r, s.phase = .delivering c r → s.chanOwner c = some r.requestID
  answered : ∀ rid c r, s.callers rid = .answered c r → r.requestID = rid
  done : ∀ rid r, s.callers rid = .done (.ok r) → r.requestID = rid

theorem RegistryInv.init (cfg : Config) : RegistryInv (State.init cfg) where
  entry := by simp [State.init]
  owner := by simp [State.init, SendPc.chan]
  fresh := by simp [State.init]
  delivering := by simp [State.init]
  answered := by simp [State.init]
  done := by simp [State.init]

variable {s s' : State}

theorem RegistryInv.frame (h : RegistryInv s) (hcal : s'.callers = s.callers)
    (hown : s'.chanOwner = s.chanOwner) (hnext : s'.nextChan = s.nextChan)
    (hreg : ∀ r c, s'.responsesChanRegistry r = some c → s.responsesChanRegistry r = some c)
    (hph : ∀ c r, s'.phase = .delivering c r → s.chanOwner c = some r.requestID) :
    RegistryInv s' where
  entry r c hr := hcal ▸ h.entry r c (hreg r c hr)
  owner r c hc := hown ▸ h.owner r c (hcal ▸ hc)
  fresh c hc := hown ▸ h.fresh c (hnext ▸ hc)
  delivering c r hp := hown ▸ hph c r hp
  answered := hcal ▸ h.answered
  done := hcal ▸ h.done

/-- `connect` changes no caller and no channel, and only empties the registry. -/
theorem connect_frame {k : ConnectPc} {a : ConnectAction} {o : ConnectPc ⊕ Except ManipError Unit}
    (h : connect s k a = some (s', o)) :
    s'.callers = s.callers ∧ s'.chanOwner = s.chanOwner ∧ s'.nextChan = s.nextChan ∧
      s'.phase = s.phase ∧
      ∀ r c, s'.responsesChanRegistry r = some c → s.responsesChanRegistry r = some c := by
  cases k <;> cases a <;> (try rename_i r; cases r) <;> simp [connect] at h <;>
    obtain ⟨rfl, -⟩ := h <;>
    simp [State.unregisterAllResponseChannels, State.dialed]

theorem RegistryInv.construct (h : RegistryInv s) {k : ConnectPc} {a : ConnectAction}
    (hs : construct s k a = some s') : RegistryInv s' := by
  simp only [Websocket.construct, Option.map_eq_some'] at hs
  obtain ⟨⟨t, o⟩, ht, rfl⟩ := hs
  obtain ⟨h1, h2, h3, h4, h5⟩ := connect_frame ht
  have ht' : RegistryInv t := h.frame h1 h2 h3 h5 fun c r hp => h.delivering c r (h4 ▸ hp)
  rcases o with _ | _ | _ <;>
    exact ht'.frame rfl rfl rfl (fun _ _ => id) fun _ _ hp => by cases hp

theorem RegistryInv.listen (h : RegistryInv s) {a : ListenAction}
    (hs : listen s a = some s') : RegistryInv s' := by
  unfold Websocket.listen at hs
  split at hs <;> try cases hs
  case h_3 r hp =>
    refine h.frame rfl rfl rfl (fun _ _ => id) fun c r' hc => ?_
    simp only [State.responseChannelForID] at hc
    split at hc <;> cases hc
    exact h.owner _ _ (h.entry _ _ ‹_›)
  case h_5 k a' hp =>
    simp only [Option.map_eq_some'] at hs
    obtain ⟨⟨t, o⟩, ht, rfl⟩ := hs
    obtain ⟨h1, h2, h3, h4, h5⟩ := connect_frame ht
    have ht' : RegistryInv t := h.frame h1 h2 h3 h5 fun c r hp' => by rw [h4, hp] at hp'; cases hp'
    rcases o with _ | _ | _ <;>
      exact ht'.frame rfl rfl rfl (fun _ _ => id) fun _ _ hp' => by cases hp'
  all_goals exact h.frame rfl rfl rfl (fun _ _ => id) (by simp; try split <;> simp)

theorem RegistryInv.setCaller (h : RegistryInv s) {rid : String} {pc : SendPc}
    (hentry : ∀ c, s.responsesChanRegistry rid = some c → pc.chan = some c)
    (howner : ∀ c, pc.chan = some c → s.chanOwner c = some rid)
    (hans : ∀ c r, pc = .answered c r → r.requestID = rid)
    (hdone : ∀ r, pc = .done (.ok r) → r.requestID = rid) : RegistryInv (s.setCaller rid pc) := by
  refine ⟨fun r c hr => ?_, fun r c hc => ?_, h.fresh, h.delivering, fun r c x hx => ?_,
    fun r x hx => ?_⟩ <;> simp only [State.setCaller, Function.update_apply] at * <;>
    split_ifs at * with hr' <;> subst_vars
  all_goals first
    | exact hentry _ hr | exact howner _ hc | exact hans _ _ rfl | exact hdone _ rfl
    | exact h.entry _ _ hr | exact h.owner _ _ hc | exact h.answered _ _ _ hx | exact h.done _ _ hx

theorem RegistryInv.unregister (h : RegistryInv s) (rid : String) :
    RegistryInv (s.unregisterResponseChannel rid) :=
  h.frame rfl rfl rfl (fun r c hr => by
    simp only [State.unregisterResponseChannel, Function.update_apply] at hr
    split_ifs at hr; exact hr) h.delivering

theorem RegistryInv.register (h : RegistryInv s) (rid : String) :
    RegistryInv (s.registerResponseChannel rid) := by
  have hnew := h.fresh s.nextChan le_rfl
  have hne : ∀ c r, s.chanOwner c = some r → c ≠ s.nextChan := fun c r hc he => by
    simp [he, hnew] at hc
  refine ⟨fun r c hr => ?_, fun r c hc => ?_, fun c hc => ?_, fun c r hp => ?_,
    fun r c x hx => ?_, fun r x hx => ?_⟩ <;>
    simp only [State.registerResponseChannel, Function.update_apply] at *
  · split_ifs at hr with hr'
    · cases hr; simp [hr', SendPc.chan]
    · simpa [hr'] using h.entry _ _ hr
  · split_ifs at hc with hr'
    · simp only [SendPc.chan, Option.some.injEq] at hc; simp [hc, hr']
    · have ho := h.owner _ _ hc; simp [hne _ _ ho, ho]
  · simp [show c ≠ s.nextChan by omega, h.fresh c (by omega)]
  · have ho := h.delivering _ _ hp; simp [hne _ _ ho, ho]
  · by_cases hr' : r = rid
    · simp [hr'] at hx
    · simp only [hr', if_false] at hx; exact h.answered _ _ _ hx
  · by_cases hr' : r = rid
    · simp [hr'] at hx
    · simp only [hr', if_false] at hx; exact h.done _ _ hx

theorem RegistryInv.setCaller_quiet (h : RegistryInv s) {rid : String} {pc : SendPc}
    (hold : (s.callers rid).chan = none) (hpc : pc.chan = none)
    (hans : ∀ c r, pc ≠ .answered c r) (hdone : ∀ r, pc ≠ .done (.ok r)) :
    RegistryInv (s.setCaller rid pc) :=
  h.setCaller (fun c hr => by simpa [hold] using h.entry _ _ hr) (by simp [hpc])
    (fun c r he => absurd he (hans c r)) (fun r he => absurd he (hdone r))

theorem RegistryInv.send (h : RegistryInv s) {rid : String} {a : SendAction}
    (hs : send s rid a = some s') : RegistryInv s' := by
  unfold Websocket.send at hs
  split at hs
  case h_1 hc =>
    split at hs <;> cases hs
    refine h.setCaller_quiet (by simp [hc, SendPc.chan]) ?_ ?_ ?_ <;> split <;> simp [SendPc.chan]
  case h_2 hc =>
    cases hs
    refine h.setCaller_quiet (by simp [hc, SendPc.chan]) ?_ ?_ ?_ <;> split <;> simp [SendPc.chan]
  all_goals cases hs
  case h_3 => exact h.register rid
  case h_4 c hc =>
    refine h.setCaller (fun c' hr => ?_) (fun c' hc' => ?_) (by simp) (by simp)
    · simpa [hc, SendPc.chan] using h.entry _ _ hr
    · exact h.owner _ _ (by simpa [hc, SendPc.chan] using hc')
  case h_5 c r hc =>
    refine (h.unregister rid).setCaller ?_ (by simp [SendPc.chan]) (by simp) fun x hx => ?_
    · simp [State.unregisterResponseChannel]
    · simp only [sendResult, SendPc.done.injEq] at hx
      split at hx
      · cases hx
      · cases hx; exact h.answered _ _ _ hc
  case h_6 c hc =>
    exact (h.unregister rid).setCaller (by simp [State.unregisterResponseChannel])
      (by simp [SendPc.chan]) (by simp) (by simp)

theorem RegistryInv.deliver (h : RegistryInv s) {rid : String} (hs : deliver s rid = some s') :
    RegistryInv s' := by
  unfold Websocket.deliver at hs
  split at hs
  case h_1 c r c' hp hc =>
    split at hs <;> cases hs
    rename_i hcc; subst hcc
    have hown : s.chanOwner c = some rid := h.owner _ _ (by simp [hc, SendPc.chan])
    have h' : RegistryInv (s.setCaller rid (.answered c r)) := h.setCaller
      (fun c' hr => by simpa [hc, SendPc.chan] using h.entry _ _ hr) (by simpa [SendPc.chan])
      (fun _ _ he => by cases he; simpa [hown, eq_comm] using h.delivering _ _ hp) (by simp)
    exact h'.frame rfl rfl rfl (fun _ _ => id) (by simp)
  case h_2 => cases hs

/-- Every step keeps the registry invariant. -/
theorem RegistryInv.step (h : RegistryInv s) {a : Action} (hs : step s a = some s') :
    RegistryInv s' := by
  cases a with
  | construct a => obtain ⟨_, -, hs⟩ := step_construct hs; exact h.construct hs
  | listen a => exact h.listen hs
  | send rid a => exact h.send hs
  | deliver rid => exact h.deliver hs
  | stop =>
    simp only [Websocket.step, Websocket.stop] at hs
    split at hs <;> cases hs
    exact h.frame (by simp) (by simp) (by simp) (by simp) (by simpa using h.delivering)
  | signal =>
    simp only [Websocket.step, Websocket.signal] at hs
    split at hs <;> cases hs
    exact h.frame rfl rfl rfl (fun _ _ => id) h.delivering
  | renew a =>
    simp only [Websocket.step, Websocket.renewMidgardToken] at hs
    split at hs <;> cases hs <;> exact h.frame rfl rfl rfl (fun _ _ => id) h.delivering

theorem RegistryInv.reachable {cfg : Config} (hs : Reachable cfg s) : RegistryInv s :=
  hs.induct RegistryInv (RegistryInv.init cfg) fun _ _ _ h => h.step

theorem registry_invariant {cfg : Config} {s : State} (hs : Reachable cfg s) :
    (∀ r c, s.responsesChanRegistry r = some c →
      s.chanOwner c = some r ∧ (s.callers r).chan = some c) ∧
    (∀ c r, s.phase = .delivering c r → s.chanOwner c = some r.requestID) ∧
    (∀ rid r, s.callers rid = .done (.ok r) → r.requestID = rid) ∧
    ((∀ r, (s.callers r).inFlight = false) → ∀ r, s.responsesChanRegistry r = none) := by
  have h := RegistryInv.reachable hs
  refine ⟨fun r c hr => ⟨h.owner _ _ (h.entry _ _ hr), h.entry _ _ hr⟩, h.delivering, h.done,
    fun hq r => ?_⟩
  cases hr : s.responsesChanRegistry r with
  | none => rfl
  | some c => simpa [hq r] using SendPc.inFlight_of_chan (h.entry _ _ hr)

theorem registry_invariant_registered :
    let cfg := newWebSocketManipulator "user" "secret" "https://api"
    let s := (run (State.init cfg) [.construct .clear, .construct .build,
      .construct (.dial .connected), .construct (.handshake (.ok ⟨"", 200, 0, ""⟩)),
      .send "r" .check, .send "r" (.write none), .send "r" .register]).getD (State.init cfg)
    (∀ r c, s.responsesChanRegistry r = some c →
      s.chanOwner c = some r ∧ (s.callers r).chan = some c) ∧
    (∀ c r, s.phase = .delivering c r → s.chanOwner c = some r.requestID) ∧
    (∀ rid r, s.callers rid = .done (.ok r) → r.requestID = rid) ∧
    ((∀ r, (s.callers r).inFlight = false) → ∀ r, s.responsesChanRegistry r = none) :=
  @registry_invariant (newWebSocketManipulator "user" "secret" "https://api") _
    ⟨[.construct .clear, .construct .build, .construct (.dial .connected),
      .construct (.handshake (.ok ⟨"", 200, 0, ""⟩)), .send "r" .check, .send "r" (.write none),
      .send "r" .register], rfl⟩

/-! ## A response the code drops -/

theorem response_dropped_before_register :
    ∃ s, run (State.init (newWebSocketManipulator "user" "secret" "https://api"))
        [.construct .clear, .construct .build, .construct (.dial .connected),
          .construct (.handshake (.ok ⟨"", 200, 0, ""⟩)), .send "r" .check, .send "r" (.write none),
          .listen (.recv (some ⟨"r", 200, 0, "{}"⟩))] = some s ∧
      s.callers "r" = .written ∧ s.phase = .received ⟨"r", 200, 0, "{}"⟩ ∧
      ∃ t, run s [.listen .lookup, .send "r" .register, .send "r" .timeout,
          .send "r" .unregister] = some t ∧
        t.phase = .reading ∧
          t.callers "r" = .done (.error (.cannotCommunicate "Request timeout")) :=
  ⟨_, rfl, rfl, rfl, _, rfl, rfl, rfl⟩

/-! ## `listen` stuck on a channel nobody reads -/

/-- `listen` holds channel `c`, on which no `send` waits; channels made later are others. -/
def Stuck (c : Nat) (r : Response) (s : State) : Prop :=
  s.phase = .delivering c r ∧ c < s.nextChan ∧ ∀ rid, s.callers rid ≠ .waiting c

/-- A step of `send` keeps `listen`'s place and waits only on a channel it waited on before or on
the new one. -/
theorem send_waiting {rid : String} {a : SendAction} (hs : send s rid a = some s') :
    s'.phase = s.phase ∧ s.nextChan ≤ s'.nextChan ∧
      ∀ r c, s'.callers r = .waiting c → s.callers r = .waiting c ∨ c = s.nextChan := by
  unfold Websocket.send at hs
  split at hs <;> (try split at hs) <;> cases hs <;>
    refine ⟨rfl, by simp [State.setCaller, State.registerResponseChannel,
      State.unregisterResponseChannel], fun r c hc => ?_⟩ <;>
    simp only [State.setCaller, State.registerResponseChannel, State.unregisterResponseChannel,
      Function.update_apply] at hc <;>
    split_ifs at hc <;> (try split at hc) <;> simp_all

theorem Stuck.step {c : Nat} {r : Response} (h : Stuck c r s) {a : Action}
    (hs : step s a = some s') : Stuck c r s' := by
  obtain ⟨hp, hlt, hw⟩ := h
  cases a with
  | construct a => simp only [Websocket.step, hp] at hs; cases hs
  | listen a => cases a <;> simp only [Websocket.step, Websocket.listen, hp] at hs <;> cases hs
  | send rid a =>
    obtain ⟨h1, h2, h3⟩ := send_waiting hs
    refine ⟨h1 ▸ hp, by omega, fun rid' he => ?_⟩
    rcases h3 _ _ he with h | h
    · exact hw _ h
    · omega
  | deliver rid =>
    simp only [Websocket.step, Websocket.deliver, hp] at hs
    split at hs
    · rename_i heq hc
      split at hs
      · cases heq
        subst_vars
        exact absurd hc (hw rid)
      · cases hs
    · cases hs
  | stop =>
    simp only [Websocket.step, Websocket.stop] at hs
    split at hs <;> cases hs
    exact ⟨by simpa, by simpa, by simpa⟩
  | signal =>
    simp only [Websocket.step, Websocket.signal] at hs
    split at hs <;> cases hs
    exact ⟨hp, hlt, hw⟩
  | renew a =>
    simp only [Websocket.step, Websocket.renewMidgardToken] at hs
    split at hs <;> cases hs <;> exact ⟨hp, hlt, hw⟩

theorem RegistryInv.stuck (h : RegistryInv s) {c : Nat} {r : Response} {rid : String}
    (hp : s.phase = .delivering c r) (ho : s.chanOwner c = some rid)
    (hw : s.callers rid ≠ .waiting c) : Stuck c r s := by
  refine ⟨hp, Nat.lt_of_not_le fun hc => by simp [h.fresh c hc] at ho, fun rid' he => ?_⟩
  have := h.owner rid' c (by simp [he, SendPc.chan])
  rw [ho, Option.some.injEq] at this
  exact hw (this ▸ he)

/-- From a reachable state in which `listen` delivers on the channel of a `send` that no longer
waits on it, no run moves `listen` on. -/
theorem delivering_forever {cfg : Config} (hr : Reachable cfg s) {c : Nat} {r : Response}
    {rid : String} (hp : s.phase = .delivering c r) (ho : s.chanOwner c = some rid)
    (hw : s.callers rid ≠ .waiting c) {as : List Action} {t : State} (ht : run s as = some t) :
    t.phase = .delivering c r :=
  (run_preserves (Stuck c r) (fun _ _ _ h hs => h.step hs)
    ((RegistryInv.reachable hr).stuck hp ho hw) ht).1

theorem listen_stuck_forever :
    ∃ s, run (State.init (newWebSocketManipulator "user" "secret" "https://api"))
        [.construct .clear, .construct .build, .construct (.dial .connected),
          .construct (.handshake (.ok ⟨"", 200, 0, ""⟩)), .send "r" .check, .send "r" (.write none),
          .send "r" .register, .listen (.recv (some ⟨"r", 200, 0, "{}"⟩)), .listen .lookup,
          .send "r" .timeout, .send "r" .unregister] = some s ∧
      s.phase = .delivering 0 ⟨"r", 200, 0, "{}"⟩ ∧
      s.callers "r" = .done (.error (.cannotCommunicate "Request timeout")) ∧
      ∀ as t, run s as = some t → t.phase = .delivering 0 ⟨"r", 200, 0, "{}"⟩ :=
  ⟨_, rfl, rfl, rfl, fun _ _ => @delivering_forever _ _ ⟨[.construct .clear,
    .construct .build, .construct (.dial .connected),
    .construct (.handshake (.ok ⟨"", 200, 0, ""⟩)), .send "r" .check, .send "r" (.write none),
    .send "r" .register, .listen (.recv (some ⟨"r", 200, 0, "{}"⟩)), .listen .lookup, .send "r" .timeout,
    .send "r" .unregister], rfl⟩ 0 _ "r" rfl rfl (by decide) _ _⟩

end Manipulate.Websocket