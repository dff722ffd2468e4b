import FluidGateway.HandleHistory

/-!
# What a status says about the session

`Exchange` lists what an exchange can do to the session it meets.  From it: a
status other than a failure inside the session means that nothing has changed,
a failure inside retires the session for good, and a size is reported only with
a complete response (`exchange_truthful`).
-/

namespace FluidGateway.Native

/-- A status of a failure inside a session. -/
def Status.Broken (status : Status) : Prop :=
  status = .invalidFrame ∨ status = .outOfMemory ∨ status = .internalError

/-- A status that promises that nothing has changed. -/
def Status.Quiet (status : Status) : Prop :=
  status = .invalidArgument ∨ status = .bufferTooSmall ∨ status = .invalidHandle ∨
    status = .busy ∨ status = .sessionClosed

/-- A request that is processed without an exception is processed as the session does. -/
theorem ProtocolSession.processOrThrow_ok {s t : ProtocolSession} {surroundings : Surroundings}
    {request response : Frame}
    (h : s.processOrThrow surroundings request = (.ok response, t)) :
    s.process surroundings.memory request = (response, t) := by
  unfold processOrThrow at h
  split at h
  · cases h
  · obtain ⟨hresponse, ht⟩ := Prod.mk.inj h
    exact Prod.ext (Except.ok.inj hresponse) ht

/-- Handling a request does not change the identity of a session. -/
theorem ProtocolSession.handle_identity (s : ProtocolSession) (m : Memory) (request : Frame) :
    (s.handle m request).2.identity = s.identity := by
  have hprocess : (s.process m request).2.identity = s.identity := process_identity
  rw [process_handled] at hprocess
  rw [← hprocess]
  rcases s.handle m request with ⟨e | response, t⟩ <;> rfl

/-- Processing a request does not change the identity of a session, also where it throws. -/
theorem ProtocolSession.processOrThrow_identity (s : ProtocolSession)
    (surroundings : Surroundings) (request : Frame) :
    (s.processOrThrow surroundings request).2.identity = s.identity := by
  unfold processOrThrow
  split
  · next hhandle =>
      have hidentity := s.handle_identity surroundings.memory request
      rw [hhandle] at hidentity
      exact hidentity
  · exact process_identity

/-- What an exchange can do to the session it meets. -/
inductive Session.Exchange (call : ExchangeCall) (s : Session) : Exchanged → Session → Prop
  | closed (h : s.protocol.closed = true) : Exchange call s { status := .sessionClosed } s
  | broken {status : Status} {t : Session} (hstatus : status.Broken)
      (hclosed : t.protocol.closed = true)
      (hidentity : t.protocol.identity = s.protocol.identity) : Exchange call s { status } t
  | answered {frame response : Frame} {protocol : ProtocolSession} {data : Bytes}
      {metrics : Metrics} (hdecode : decodeFrame call.bytes = .ok frame)
      (hprocess : s.protocol.process call.surroundings.memory frame = (response, protocol))
      (hdata : encodeFrameInto response call.output.size = .ok data) :
      Exchange call s { status := .ok, outputSize := some data.length, output := some data }
        { protocol, metrics }

namespace Session

variable {call : ExchangeCall} {s t : Session} {answer : Exchanged}

/-- Every fault is reported by a status of a failure. -/
theorem Fault.broken (fault : Fault) : (Fault.status fault).Broken := by
  cases fault with
  | badAlloc => exact .inr (.inl rfl)
  | other => exact .inr (.inr rfl)

/-- An exchange does one of the listed things to its session. The cases follow the checks
and exceptions of the call. -/
theorem exchange_spec (call : ExchangeCall) (s : Session) :
    Exchange call s (s.exchange call).1 (s.exchange call).2 := by
  unfold exchange
  by_cases hclosed : s.protocol.closed = true
  · rw [if_pos hclosed]
    exact .closed hclosed
  rw [if_neg hclosed]
  cases hdecode : decodeFrame call.bytes with
  | error e => exact .broken (.inl rfl) rfl rfl
  | ok frame =>
      cases call.surroundings.decoding with
      | some fault => exact .broken (Fault.broken fault) rfl rfl
      | none =>
          have hidentity := s.protocol.processOrThrow_identity call.surroundings frame
          dsimp only
          rcases hprocess : s.protocol.processOrThrow call.surroundings frame
            with ⟨fault | response, protocol⟩
          all_goals rw [hprocess] at hidentity
          · exact .broken (Fault.broken fault) rfl hidentity
          · dsimp only
            rcases s.metrics.count call.request.size frame response with ⟨_ | e, metrics⟩
            · dsimp only
              cases hdata : encodeFrameInto response call.output.size with
              | error e => exact .broken (.inl rfl) rfl hidentity
              | ok data =>
                  exact .answered hdecode (ProtocolSession.processOrThrow_ok hprocess) hdata
            · exact .broken (.inl rfl) rfl hidentity

/-- A quiet status is answered only where nothing has changed. -/
theorem Exchange.quiet (h : Exchange call s answer t) (hstatus : answer.status.Quiet) : t = s := by
  cases h with
  | closed => rfl
  | broken hbroken =>
      exfalso
      rcases hbroken with rfl | rfl | rfl <;> rcases hstatus with h | h | h | h | h <;> cases h
  | answered =>
      exfalso
      rcases hstatus with h | h | h | h | h <;> cases h

/-- A closed session stays as it is. -/
theorem exchange_of_closed (hclosed : s.protocol.closed = true)
    (hexchange : s.exchange call = (answer, t)) : answer.status ≠ .ok ∧ t = s := by
  unfold exchange at hexchange
  rw [if_pos hclosed] at hexchange
  obtain ⟨rfl, rfl⟩ := Prod.mk.inj hexchange
  exact ⟨by decide, rfl⟩

/-- An exchange does not change the identity of its session. -/
theorem Exchange.identity (h : Exchange call s answer t) :
    t.protocol.identity = s.protocol.identity := by
  cases h with
  | closed => rfl
  | broken _ _ hidentity => exact hidentity
  | @answered frame _ _ _ _ _ hprocess =>
      have hidentity : (s.protocol.process call.surroundings.memory frame).2.identity =
        s.protocol.identity := ProtocolSession.process_identity
      rw [hprocess] at hidentity
      exact hidentity

/-- A size is reported with the complete response that has it, and what is
answered is a response. -/
theorem Exchange.size (h : Exchange call s answer t)
    (hidentity : nonzero s.protocol.identity.toList = true) :
    (answer.status ≠ .ok → answer.outputSize = some 0) ∧
      (answer.status = .ok → ∃ data response, answer.output = some data ∧
        answer.outputSize = some data.length ∧ data.length ≠ 0 ∧
        decodeFrame data = .ok response ∧ response.kind = 2) := by
  cases h with
  | closed => exact ⟨fun _ => rfl, fun h => by cases h⟩
  | broken hbroken =>
      refine ⟨fun _ => rfl, fun h => ?_⟩
      rcases hbroken with hbroken | hbroken | hbroken <;> rw [hbroken] at h <;> cases h
  | @answered frame response protocol data metrics hdecode hprocess hdata =>
      refine ⟨fun h => absurd rfl h, fun _ => ⟨data, response, rfl, rfl, ?_⟩⟩
      obtain ⟨hvalid, _⟩ := ProtocolSession.process_sends (m := call.surroundings.memory) hidentity
        (decodeFrame_eq_ok.mp hdecode).1
      have hkind : (s.protocol.process call.surroundings.memory frame).1.kind = 2 :=
        ProtocolSession.process_kind
      rw [hprocess] at hvalid hkind
      have hbytes : data = frameBytes response := by
        unfold encodeFrameInto at hdata
        split_ifs at hdata
        cases hdata
        rfl
      refine ⟨?_, decodeFrame_eq_ok.mpr ⟨hvalid, hbytes⟩, hkind⟩
      rw [hbytes, frameBytes_length]
      unfold headerSize
      omega

end Session

namespace Table

variable {κ : Type} [DecidableEq κ] {t t' : Table κ} {e : Option Event} {c : κ}

/-- How the session of a slot can change in one step. -/
inductive Change (t t' : Table κ) (i : Fin maxSessions) : Option Event → Prop
  | created (k : Nat) (random : Identity)
      (after : (t'.slots i).session = some { protocol := .fresh (versioned random) }) :
      Change t t' i (some (.created k { protocol := .fresh (versioned random) }))
  | destroyed (k : Nat) (after : (t'.slots i).session = none) :
      Change t t' i (some (.destroyed k .ok))
  | exchanged (call : ExchangeCall) (s : Session) (handle : (t.slots i).handle = call.handle)
      (before : (t.slots i).session = some s)
      (after : (t'.slots i).session = some (s.exchange call).2) :
      Change t t' i (some (.exchanged call (s.exchange call).1 (some (s, (s.exchange call).2))))

/-- **Sessions change only in the steps that say so.** -/
theorem session_changes (hstep : Step t e t') (i : Fin maxSessions)
    (hchange : (t'.slots i).session ≠ (t.slots i).session) : Change t t' i e := by
  obtain ⟨c, hmove⟩ := hstep
  have hput : ∀ {j : Fin maxSessions} {slot : Slot κ} {pc : Pc},
      slot.session = (t.slots j).session →
      ((t.put c j slot pc).slots i).session = (t.slots i).session := by
    intro j slot pc hslot
    by_cases hj : i = j
    · subst hj
      simp [put, hslot]
    · simp [put, hj]
  have helse : ∀ {j : Fin maxSessions} {slot : Slot κ} {pc : Pc}, i ≠ j →
      ((t.put c j slot pc).slots i).session = (t.slots i).session := by
    intro j slot pc hj
    simp [put, hj]
  have hhere : ∀ {slot : Slot κ} {pc : Pc}, (t.put c i slot pc).slots i = slot := by
    simp [put]
  generalize t.pcs c = pc at hmove
  cases hmove with
  | call hcall => cases hcall <;> exact absurd rfl hchange
  | @install j random =>
      by_cases hj : i = j
      · subst hj
        exact .created _ random (by rw [hhere])
      · exact (hchange (helse hj)).elim
  | @clear j =>
      by_cases hj : i = j
      · subst hj
        exact .destroyed _ (by rw [hhere])
      · exact (hchange (helse hj)).elim
  | @found j use s hhandle hs =>
      by_cases hj : i = j
      · subst hj
        cases use with
        | exchange call => exact .exchanged call s hhandle hs (by rw [hhere]; rfl)
        | metrics handle =>
            refine (hchange ?_).elim
            rw [hhere, hs]
            rfl
      · exact (hchange (helse hj)).elim
  | reserve => exact (hchange (hput rfl)).elim
  | prepare => exact (hchange (hput rfl)).elim
  | skip => exact (hchange (hput rfl)).elim
  | unlock => exact (hchange (hput rfl)).elim
  | release => exact (hchange (hput rfl)).elim
  | hold => exact (hchange (hput rfl)).elim
  | enter => exact (hchange (hput rfl)).elim
  | giveBack => exact (hchange (hput rfl)).elim
  | leave => exact (hchange (hput rfl)).elim
  | _ => exact absurd rfl hchange

/-- Every session has an identity. -/
def Identified (t : Table κ) : Prop :=
  ∀ i s, (t.slots i).session = some s → nonzero s.protocol.identity.toList = true

/-- Every step leaves every session an identity: it is made with one and never given
another. -/
theorem Identified.step (h : t.Identified) (hstep : Step t e t') : t'.Identified := by
  intro i s hs
  by_cases hsame : (t'.slots i).session = (t.slots i).session
  · rw [hsame] at hs
    exact h i s hs
  · cases session_changes hstep i hsame with
    | created k random hafter =>
        cases hafter.symm.trans hs
        exact versioned_nonzero random
    | destroyed k hafter => cases hafter.symm.trans hs
    | exchanged call s₀ _ hbefore hafter =>
        cases hafter.symm.trans hs
        rw [(s₀.exchange_spec call).identity]
        exact h i s₀ hbefore

/-- A session that an exchange of the history has met has an identity. -/
theorem identified_of_steps {log : List Event} (h : Steps start log t) :
    t.Identified ∧ ∀ call answer s s', .exchanged call answer (some (s, s')) ∈ log →
      nonzero s.protocol.identity.toList = true := by
  induction h with
  | refl => exact ⟨by simp [Identified, start], by simp⟩
  | @step u u' log e hsteps hstep ih =>
      obtain ⟨hidentified, hlog⟩ := ih
      refine ⟨hidentified.step hstep, ?_⟩
      intro call answer s s' hmem
      rcases List.mem_append.mp hmem with hmem | hmem
      · exact hlog call answer s s' hmem
      · have he : e = some (.exchanged call answer (some (s, s'))) := Option.mem_toList.mp hmem
        have hreached := reached_of_steps (hsteps.step hstep)
        -- the history says that the session stood in a slot before this step
        have hallowed : Registry.current call.handle (history log) = some s := by
          refine hreached.represents.legal (history log) (.used call.handle s s') [] ?_
          rw [history_append, he]
          rfl
        obtain ⟨i, _, hs⟩ := ((reached_of_steps hsteps).represents.current _ _).mp hallowed
        exact hidentified i s hs

end Table

/-! ## After a failure -/

/-- A use is an exchange, or leaves the session as it is. -/
theorem Event.Honest.used {e : Event} (h : e.Honest) {k : Nat} {s t : Session}
    (hregistry : e.registry = some (.used k s t)) :
    (∃ call answer, s.exchange call = (answer, t)) ∨ t = s := by
  cases e with
  | created => cases hregistry
  | notCreated => cases hregistry
  | exchanged call answer found =>
      cases found with
      | some pair =>
          cases hregistry
          exact .inl ⟨call, answer, h.2⟩
      | none =>
          simp only [Event.registry] at hregistry
          split_ifs at hregistry
          cases hregistry
  | measured handle status found =>
      cases found with
      | some s =>
          cases hregistry
          exact .inr rfl
      | none =>
          simp only [Event.registry] at hregistry
          split_ifs at hregistry
          cases hregistry
  | destroyed handle status =>
      simp only [Event.registry] at hregistry
      split_ifs at hregistry
      · cases hregistry
      · cases hregistry

/-- Behind the handle there is nothing, or a closed session. -/
def Retired (k : Nat) (log : List Event) : Prop :=
  k ∈ Registry.handedOut (history log) ∧
    ∀ s, Registry.current k (history log) = some s → s.protocol.closed = true

/-- A retired handle stays retired: a closed session stays closed, and no new one is put
behind the handle. -/
theorem Retired.append {k : Nat} {log : List Event} {e : Event} (h : Retired k log)
    (hlegal : Registry.Legal (history (log ++ [e]))) (he : e.Honest) : Retired k (log ++ [e]) := by
  have hhistory : history (log ++ [e]) = history log ++ e.registry.toList :=
    Table.history_append log (some e)
  have hissued : k ∈ Registry.handedOut (history (log ++ [e])) := by
    rw [hhistory, Registry.handedOut_append]
    exact List.mem_append_left _ h.1
  refine ⟨hissued, ?_⟩
  intro s hs
  cases hregistry : e.registry with
  | none =>
      rw [hhistory, hregistry] at hs
      exact h.2 s (by simpa using hs)
  | some r =>
      rw [hhistory, hregistry] at hs hlegal
      have hallowed := hlegal (history log) r [] rfl
      rw [Option.toList_some, Registry.current_append] at hs
      cases r with
      | opened k' s' =>
          by_cases hk : k' = k
          · exact absurd h.1 (hk ▸ hallowed)
          · rw [Registry.Event.apply, if_neg hk] at hs
            exact h.2 s hs
      | used k' before after =>
          by_cases hk : k' = k
          · rw [Registry.Event.apply, if_pos hk] at hs
            cases hs
            have hclosed : before.protocol.closed = true := h.2 before (hk ▸ hallowed)
            rcases he.used hregistry with ⟨call, answer, hexchange⟩ | rfl
            · rw [(Session.exchange_of_closed hclosed hexchange).2]
              exact hclosed
            · exact hclosed
          · rw [Registry.Event.apply, if_neg hk] at hs
            exact h.2 s hs
      | closed k' =>
          by_cases hk : k' = k
          · rw [Registry.Event.apply, if_pos hk] at hs
            cases hs
          · rw [Registry.Event.apply, if_neg hk] at hs
            exact h.2 s hs
      | refused k' => exact h.2 s hs

namespace Table

variable {κ : Type} [DecidableEq κ] {t t' : Table κ}

/-- A handle whose session has broken is retired in all that follows. -/
theorem retired_after {earlier later : List Event} {call : ExchangeCall} {answer : Exchanged}
    {s s' : Session}
    (hlegal : Registry.Legal
      (history (earlier ++ .exchanged call answer (some (s, s')) :: later)))
    (hhonest : ∀ e ∈ earlier ++ .exchanged call answer (some (s, s')) :: later, e.Honest)
    (hclosed : s'.protocol.closed = true) :
    Retired call.handle (earlier ++ .exchanged call answer (some (s, s')) :: later) := by
  induction later using List.reverseRecOn with
  | nil =>
      have hhistory := history_append earlier (some (.exchanged call answer (some (s, s'))))
      rw [Option.toList_some, Option.bind_some] at hhistory
      rw [hhistory] at hlegal
      have hallowed := hlegal (history earlier) (.used call.handle s s') [] rfl
      constructor
      · rw [hhistory, Registry.handedOut_append]
        exact List.mem_append_left _ (hlegal.of_append.handedOut_of_current hallowed)
      · intro u hu
        rw [hhistory] at hu
        have hcurrent := Registry.current_append (history earlier) (.used call.handle s s')
          call.handle
        rw [Registry.Event.apply, if_pos rfl] at hcurrent
        cases hcurrent.symm.trans hu
        exact hclosed
  | append_singleton later e ih =>
      have hsplit : earlier ++ .exchanged call answer (some (s, s')) :: (later ++ [e]) =
          (earlier ++ .exchanged call answer (some (s, s')) :: later) ++ [e] := by
        rw [List.append_assoc]
        rfl
      rw [hsplit] at hlegal hhonest ⊢
      have hfront : Registry.Legal
          (history (earlier ++ .exchanged call answer (some (s, s')) :: later)) := by
        have hhistory := history_append
          (earlier ++ .exchanged call answer (some (s, s')) :: later) (some e)
        rw [Option.toList_some] at hhistory
        rw [hhistory] at hlegal
        exact hlegal.of_append
      exact (ih hfront fun e he => hhonest e (List.mem_append_left _ he)).append hlegal
        (hhonest e (List.mem_append_right _ (List.mem_singleton.mpr rfl)))

/-- A quiet status leaves every session as it was. -/
theorem quiet_unchanged {call : ExchangeCall} {answer : Exchanged}
    {found : Option (Session × Session)} (hstep : Step t (some (.exchanged call answer found)) t')
    (hquiet : answer.status.Quiet) (i : Fin maxSessions) :
    (t'.slots i).session = (t.slots i).session := by
  by_contra hchange
  cases session_changes hstep i hchange with
  | exchanged _ s _ hbefore hafter =>
      apply hchange
      rw [hafter, hbefore, (s.exchange_spec call).quiet hquiet]

/-- A failure closes the session. -/
theorem broken_closed {call : ExchangeCall} {answer : Exchanged} {s s' : Session}
    (hexchange : s.exchange call = (answer, s')) (hbroken : answer.status.Broken) :
    s'.protocol.closed = true := by
  have hspec := s.exchange_spec call
  rw [hexchange] at hspec
  cases hspec with
  | closed hclosed => exact hclosed
  | broken _ hclosed => exact hclosed
  | answered => rcases hbroken with h | h | h <;> cases h

/-- Nothing goes well any more on a retired handle. -/
theorem retired_not_ok {log later : List Event} {call : ExchangeCall} {answer : Exchanged}
    {found : Option (Session × Session)}
    (hlegal : Registry.Legal (history (log ++ .exchanged call answer found :: later)))
    (hhonest : (Event.exchanged call answer found).Honest) (hretired : Retired call.handle log) :
    answer.status ≠ .ok := by
  cases found with
  | some pair =>
      obtain ⟨s, s'⟩ := pair
      have hhistory : history (log ++ .exchanged call answer (some (s, s')) :: later) =
          history log ++ .used call.handle s s' :: history later := by
        unfold history
        rw [List.filterMap_append]
        rfl
      have hallowed := hlegal _ _ _ hhistory
      exact (Session.exchange_of_closed (hretired.2 s hallowed) hhonest.2).1
  | none =>
      intro hok
      have hgranted : (Event.exchanged call answer none).granted = some call.handle := if_pos hok
      rcases hhonest.granted hgranted with ⟨s, s', hused⟩ | hclosed
      · rw [Event.registry, hok] at hused
        cases hused
      · rw [Event.registry, hok] at hclosed
        cases hclosed

/-- A call that meets no session reports a size only to ask for a larger buffer. -/
theorem unmet_size {call : ExchangeCall} {answer : Exchanged}
    (hhonest : (Event.exchanged call answer none).Honest) :
    answer.status ≠ .ok ∧
      ∀ n, answer.outputSize = some n → n ≠ 0 → answer.status = .bufferTooSmall := by
  rcases hhonest with hrefusal | ⟨_, status, rfl, hstatus⟩
  · unfold ExchangeCall.refusal at hrefusal
    dsimp only at hrefusal
    split_ifs at hrefusal
    all_goals
      cases hrefusal
      refine ⟨by simp, ?_⟩
      intro n hn hpos
      first | rfl | cases hn
    all_goals exact absurd rfl hpos
  · constructor
    · rcases hstatus with rfl | rfl | rfl <;> simp
    · intro n hn hpos
      cases hn
      exact absurd rfl hpos

/-- **The status of an exchange tells the truth about its session.** -/
theorem exchange_truthful {log : List Event} (h : Steps start log t) :
    (∀ call answer found t', Step t (some (.exchanged call answer found)) t' →
      answer.status.Quiet → ∀ i, (t'.slots i).session = (t.slots i).session) ∧
    (∀ e t' i, Step t e t' → (t'.slots i).session ≠ (t.slots i).session → Change t t' i e) ∧
    (∀ earlier call answer s s' later,
      log = earlier ++ .exchanged call answer (some (s, s')) :: later → answer.status.Broken →
      s'.protocol.closed = true ∧
        ∀ call' answer' found', .exchanged call' answer' found' ∈ later →
          call'.handle = call.handle → answer'.status ≠ .ok) ∧
    ∀ call answer found, .exchanged call answer found ∈ log →
      (∀ n, answer.outputSize = some n → n ≠ 0 →
        answer.status = .ok ∨ answer.status = .bufferTooSmall) ∧
      (answer.status = .ok → ∃ data response, answer.output = some data ∧
        answer.outputSize = some data.length ∧ data.length ≠ 0 ∧
        decodeFrame data = .ok response ∧ response.kind = 2) := by
  have hhonest := (honest_of_steps h).2
  have hlegal := (reached_of_steps h).represents.legal
  refine ⟨fun call answer found t' hstep hquiet => quiet_unchanged hstep hquiet,
    fun e t' i hstep => session_changes hstep i, ?_, ?_⟩
  · intro earlier call answer s s' later hlog hbroken
    subst hlog
    have hthis : (Event.exchanged call answer (some (s, s'))).Honest :=
      hhonest _ (List.mem_append_right _ List.mem_cons_self)
    have hclosed := broken_closed hthis.2 hbroken
    refine ⟨hclosed, ?_⟩
    intro call' answer' found' hmem hhandle
    obtain ⟨between, after, rfl⟩ := List.append_of_mem hmem
    have hsplit : earlier ++ .exchanged call answer (some (s, s')) ::
        (between ++ .exchanged call' answer' found' :: after) =
        (earlier ++ .exchanged call answer (some (s, s')) :: between) ++
          .exchanged call' answer' found' :: after := by
      rw [List.append_assoc]
      rfl
    rw [hsplit] at hlegal hhonest
    have hfront : Registry.Legal
        (history (earlier ++ .exchanged call answer (some (s, s')) :: between)) := by
      unfold history at hlegal
      rw [List.filterMap_append] at hlegal
      exact hlegal.of_append
    have hretired := retired_after hfront
      (fun e he => hhonest e (List.mem_append_left _ he)) hclosed
    rw [← hhandle] at hretired
    exact retired_not_ok hlegal (hhonest _ (List.mem_append_right _ List.mem_cons_self)) hretired
  · intro call answer found hmem
    have hthis := hhonest _ hmem
    cases found with
    | some pair =>
        obtain ⟨s, s'⟩ := pair
        have hspec := s.exchange_spec call
        rw [hthis.2] at hspec
        obtain ⟨hsilent, hcomplete⟩ :=
          hspec.size ((identified_of_steps h).2 call answer s s' hmem)
        refine ⟨?_, hcomplete⟩
        intro n hn hpos
        left
        by_contra hstatus
        rw [hsilent hstatus] at hn
        cases hn
        exact hpos rfl
    | none =>
        obtain ⟨hfailed, hsize⟩ := unmet_size hthis
        exact ⟨fun n hn hpos => .inr (hsize n hn hpos), fun hok => absurd hok hfailed⟩

/-! ### A session that is broken

A caller opens a session, sends what is no frame, and goes on. -/

/-- A hello for the base contract. -/
def baseHello : Frame where
  opcode := 1
  message := Vector.replicate 16 1
  payload := [
    0x0d, 0x24, 0xd9, 0x6a, 0xec, 0x32, 0xd7, 0x4e, 0x12, 0x3f, 0x9e, 0x19,
    0x8e, 0x51, 0xad, 0xde, 0x74, 0xdd, 0xf1, 0x90, 0xe8, 0xc4, 0x0b, 0x0a,
    0xc1, 0x8b, 0xdd, 0xf5, 0xc4, 0x10, 0x8b, 0x2f] ++
    Writer.integer 31 8 ++ Writer.integer 27 8 ++ Writer.text (literal "peer") 1 ++
    Writer.text (literal "1") 1

/-- An exchange of some bytes with the first session. -/
def firstExchange (bytes : Bytes) : ExchangeCall where
  handle := slotHandle 1 firstSlot
  request := ⟨0x1000, bytes.length⟩
  bytes := bytes
  output := ⟨0x2000, maxFrameBytes⟩
  outputSize := 0x100
  surroundings := { memory := .ample }
  bytes_length := rfl

/-- A call that sends a hello. -/
def helloCall : ExchangeCall :=
  firstExchange (frameBytes baseHello)

/-- A call that sends a single byte. -/
def noFrame : ExchangeCall :=
  firstExchange [0]

/-- The session after its hello. -/
def welcomedSession : Session :=
  (firstSession.exchange helloCall).2

/-- The session after the single byte. -/
def brokenSession : Session :=
  (welcomedSession.exchange noFrame).2

/-- An exchange that has met a session. -/
def exchangedWith (s : Session) (call : ExchangeCall) : Event :=
  .exchanged call (s.exchange call).1 (some (s, (s.exchange call).2))

/-- A session is created, says hello, breaks on the single byte, and is called again. -/
def brokenRun : List Event :=
  [.created (slotHandle 1 firstSlot) firstSession, exchangedWith firstSession helloCall,
    exchangedWith welcomedSession noFrame, exchangedWith brokenSession helloCall]

/-- A table in which only the first slot was used, and nothing is going on. -/
structure AtRest (t : Table Unit) (s : Session) : Prop where
  idle : t.pcs () = .idle
  slot : t.slots firstSlot = { reserved := true, generation := 1, handle := slotHandle 1 firstSlot,
                               session := some s }

/-- The next exchange meets the first session. -/
theorem AtRest.exchange {log : List Event} {t : Table Unit} {s : Session} (hrest : t.AtRest s)
    (h : Steps start log t) {call : ExchangeCall} (hrefusal : call.refusal = none)
    (hcall : call.handle = slotHandle 1 firstSlot) :
    ∃ t', Steps start (log ++ [exchangedWith s call]) t' ∧ t'.AtRest (s.exchange call).2 := by
  have hfind : findSlot call.handle = some firstSlot := by
    rw [hcall]
    exact findSlot_slotHandle (by decide) firstSlot
  have hcalling := h.silent hrest.idle (.call (.exchange hrefusal hfind))
  have hslot : ((t.goto () (.calling firstSlot (.exchange call))).slots firstSlot) = _ := hrest.slot
  have hused := hcalling.use (s := s) (pcs_goto_self _) (by rw [hslot])
    (by rw [hslot]; exact hcall.symm) (by rw [hslot])
  refine ⟨_, hused, pcs_put_self _ _ _, ?_⟩
  rw [slots_put_self, hslot]
  rfl

/-- The table can be used so: each call is led through its moves. -/
theorem brokenRun_steps : ∃ t : Table Unit, Steps start brokenRun t := by
  have hhello : helloCall.refusal = none := by decide +kernel
  have hnone : noFrame.refusal = none := by decide +kernel
  obtain ⟨t, hcreated, hrest⟩ : ∃ t : Table Unit,
      Steps start [.created (slotHandle 1 firstSlot) firstSession] t ∧ t.AtRest firstSession :=
    ⟨_, (Steps.refl _).create (c := ()) rfl rfl rfl (by decide) (Vector.replicate 16 0),
      pcs_put_self _ _ _, slots_put_self _ _ _⟩
  obtain ⟨t, hwelcomed, hrest⟩ := hrest.exchange hcreated hhello rfl
  obtain ⟨t, hretired, hrest⟩ := hrest.exchange hwelcomed hnone rfl
  obtain ⟨t, hclosed, -⟩ := hrest.exchange hretired hhello rfl
  exact ⟨t, hclosed⟩

/-- The hello is answered, what is no frame breaks the session, and nothing is
answered after that. -/
theorem exchange_truthful_no_frame :
    ∃ t : Table Unit, Steps start brokenRun t ∧
      [firstSession.exchange helloCall, welcomedSession.exchange noFrame,
          brokenSession.exchange helloCall].map (fun result => result.1.status) =
        [.ok, .invalidFrame, .sessionClosed] ∧
      (∃ data response, (firstSession.exchange helloCall).1.output = some data ∧
        (firstSession.exchange helloCall).1.outputSize = some data.length ∧ data.length ≠ 0 ∧
        decodeFrame data = .ok response ∧ response.kind = 2) ∧
      brokenSession.protocol.closed = true := by
  obtain ⟨t, hrun⟩ := brokenRun_steps
  obtain ⟨-, -, hbroken, htold⟩ := exchange_truthful hrun
  have hok : (firstSession.exchange helloCall).1.status = .ok := by decide +kernel
  refine ⟨t, hrun, by decide +kernel, ?_, ?_⟩
  · have htrue := htold helloCall (firstSession.exchange helloCall).1
      (some (firstSession, welcomedSession)) (List.mem_cons_of_mem _ List.mem_cons_self)
    exact htrue.2 hok
  · have hstatus : (welcomedSession.exchange noFrame).1.status = .invalidFrame := by decide +kernel
    exact (hbroken
      [.created (slotHandle 1 firstSlot) firstSession, exchangedWith firstSession helloCall] noFrame
      (welcomedSession.exchange noFrame).1 welcomedSession brokenSession
      [exchangedWith brokenSession helloCall] rfl (.inl hstatus)).1

end Table

end FluidGateway.Native
