import Gadget.Proofs.Atomicity
import Gadget.Proofs.Dropping
/-!
# The conversation with the kernel

Everything that an engine asks of its kernel, from its creation to the end of its drop, is one
`Conversation`: an I/O context and a doorbell are asked for, each call of the engine adds one `Exchange`,
and the I/O context and then the doorbell are given back, each once and whatever the kernel says to it.
A creation that fails gives back what it got. `Session.Since` are the sessions that such a life leads
through, beside any kernel; one step of it keeps the conversation under way (`Underway.call`), and letting
go of the engine ends it (`Session.Since.conversation`).
-/
namespace Gadget

/-! ## What is said -/

/-- The kernel calls of one call of an engine with the I/O context `id`, the doorbell `file` and room for
`room` operations. -/
inductive Exchange (id : UInt64) (file : Int32) (room : Nat) : EngineCall → List Call → Prop
  | silent {call : EngineCall} (hsubmit : call ≠ .submit) (hpoll : call ≠ .poll) :
    Exchange id file room call []
  /-- Nothing waits for submission. -/
  | idle : Exchange id file room .submit []
  | submitted {batch : List Descriptor} {outcome : Except Errno Nat} (hpos : 1 ≤ batch.length)
    (hle : batch.length ≤ room) : Exchange id file room .submit [.submit id batch outcome]
  /-- The doorbell did not ring. -/
  | unanswered {outcome : Except Errno Nat} (h : outcome ≠ .ok 8) :
    Exchange id file room .poll [.read file outcome]
  | collected {outcome : Except Errno Nat} :
    Exchange id file room .poll [.read file (.ok 8), .getEvents id 1 room outcome]

/-- The kernel calls of a program, one exchange for each of its calls. -/
inductive Dialogue (id : UInt64) (file : Int32) (room : Nat) : List EngineCall → List Call → Prop
  | nil : Dialogue id file room [] []
  | snoc {program : List EngineCall} {made exchange : List Call} {call : EngineCall}
    (h : Dialogue id file room program made) (hx : Exchange id file room call exchange) :
    Dialogue id file room (program ++ [call]) (made ++ exchange)

theorem Dialogue.eq_nil {id : UInt64} {file : Int32} {room : Nat} {made : List Call}
    (h : Dialogue id file room [] made) : made = [] := by
  generalize hp : ([] : List EngineCall) = program at h
  cases h with
  | nil => rfl
  | snoc h hx => simp at hp

variable {κ : Type} [Kernel κ]

/-- All kernel calls of an engine, given the machine that it was requested on, how its creation ended and
which calls followed. -/
inductive Conversation (creation : Creation) (m : Machine κ) (program : List EngineCall) :
    Except Refusal Answer → List Call → Prop
  | rejected {err : TransferError} (h : creation.prepare m = .error err) :
    Conversation creation m program (.error (.fault (.error err))) []
  | refused {size : Nat} {errno : Errno} (h : creation.prepare m = .ok size) :
    Conversation creation m program (.error (.fault (.error (.setupFailed errno))))
      [.setup (.ofNat size) (.error errno)]
  /-- There is no doorbell to be had. -/
  | withdrawn {size : Nat} {id : UInt64} {errno : Errno} {destroyed : Except Errno Unit}
    (h : creation.prepare m = .ok size) :
    Conversation creation m program (.error (.fault (.error (.setupFailed errno))))
      [.setup (.ofNat size) (.ok id), .eventfd (.error errno), .destroy id destroyed]
  /-- One of the endpoints cannot be equipped. -/
  | abandoned {plans : List EndpointPlan} {size : Nat} {id : UInt64} {file : Int32} {f : Fault}
    {destroyed closed : Except Errno Unit} (hc : creation = .equipped plans)
    (h : creation.prepare m = .ok size) : Conversation creation m program (.error (.fault f))
      [.setup (.ofNat size) (.ok id), .eventfd (.ok file), .destroy id destroyed, .close file closed]
  | whole {size : Nat} {id : UInt64} {file : Int32} {made : List Call}
    {destroyed closed : Except Errno Unit} (h : creation.prepare m = .ok size)
    (hd : Dialogue id file size program made) : Conversation creation m program (.ok .done)
      ([.setup (.ofNat size) (.ok id), .eventfd (.ok file)] ++ made ++
        [.destroy id destroyed, .close file closed])

namespace Engine

variable {e : Engine}

/-! ## One call -/

theorem submit_exchange (hs : Sound e) (m : Machine κ) :
    ∃ exchange, (e.submit m).2.2.calls = m.calls ++ exchange ∧
      Exchange e.context.id e.doorbell.file e.maxEvents .submit exchange := by
  by_cases hq : e.backlog.slots = []
  · refine ⟨[], ?_, .idle⟩
    simp [submit, Backlog.isEmpty, hq]
  · obtain ⟨outcome, hcalls⟩ := submit_calls_eq hs hq m
    have hlen : e.batch.length = e.backlog.slots.length := List.length_map _
    have hpos := List.length_pos_iff.2 hq
    have hbacklog := hs.length_backlog_le
    have howned := hs.owned_le
    exact ⟨_, hcalls, .submitted (by omega) (by omega)⟩

theorem poll_exchange (hs : Sound e) (m : Machine κ) :
    ∃ exchange, (e.poll m).2.2.calls = m.calls ++ exchange ∧
      Exchange e.context.id e.doorbell.file e.maxEvents .poll exchange := by
  rcases poll_cases hs m with ⟨errno, m', he, h⟩ | ⟨count, written, valid, refused, e', m', he, h⟩
  · rw [he]
    rcases h.kernel with ⟨-, hc⟩ | ⟨length, signaled, -, h8, -, hc⟩ | ⟨signaled, k, -, -, hc⟩
    · exact ⟨_, hc, .unanswered (by simp)⟩
    · exact ⟨_, hc, .unanswered (by simpa using h8)⟩
    · exact ⟨_, hc, .collected⟩
  · obtain ⟨signaled, k, -, -, hc, -⟩ := h.kernel
    rw [he]
    exact ⟨_, hc, .collected⟩

/-- **A call of an engine makes one exchange** with the kernel. -/
theorem perform_exchange (hs : Sound e) (call : EngineCall) (m : Machine κ) :
    ∃ exchange, (e.perform call m).2.2.calls = m.calls ++ exchange ∧
      Exchange e.context.id e.doorbell.file e.maxEvents call exchange := by
  by_cases hsubmit : call = .submit
  · subst hsubmit
    exact submit_exchange hs m
  by_cases hpoll : call = .poll
  · subst hpoll
    exact poll_exchange hs m
  exact ⟨[], by rw [perform_calls_eq hs m hsubmit hpoll, List.append_nil], .silent hsubmit hpoll⟩

/-- Equipping an endpoint asks nothing of the kernel and keeps the handles and the size. -/
theorem equip_frame (hs : Sound e) (index : Nat) (plan : EndpointPlan) (m : Machine κ) :
    Sound (e.equip index plan m).2.1 ∧ (e.equip index plan m).2.1.context = e.context ∧
      (e.equip index plan m).2.1.doorbell = e.doorbell ∧
      (e.equip index plan m).2.1.maxEvents = e.maxEvents ∧
      (e.equip index plan m).2.2.calls = m.calls := by
  rcases equip_cases hs index plan m with ⟨err, k, m', he, hg⟩ | ⟨buffers, e', m', he, h⟩
  · rw [he]
    exact ⟨hs, rfl, rfl, rfl, hg.calls⟩
  · rw [he]
    exact ⟨h.sound hs, h.keeps.context, h.keeps.doorbell, by rw [h.engine]; rfl, h.machine.calls⟩

/-- So does equipping several of them. -/
theorem equipAll_frame (hs : Sound e) (index : Nat) (plans : List EndpointPlan) (m : Machine κ) :
    Sound (Engine.equipAll index plans e m).2.1 ∧
      (Engine.equipAll index plans e m).2.1.context = e.context ∧
      (Engine.equipAll index plans e m).2.1.doorbell = e.doorbell ∧
      (Engine.equipAll index plans e m).2.1.maxEvents = e.maxEvents ∧
      (Engine.equipAll index plans e m).2.2.calls = m.calls := by
  refine equipAll_induction (P := fun e' m' => Sound e' ∧ e'.context = e.context ∧
    e'.doorbell = e.doorbell ∧ e'.maxEvents = e.maxEvents ∧ m'.calls = m.calls) ?_
    ⟨hs, rfl, rfl, rfl, rfl⟩ index plans
  rintro index plan e' m' ⟨hs', hcontext, hdoorbell, hmax, hcalls⟩
  rw [← hcontext, ← hdoorbell, ← hmax, ← hcalls]
  exact equip_frame hs' index plan m'

end Engine

/-! ## A whole life -/

namespace Session

/-- The sessions that a request for an engine and the calls after it lead through. Between the calls the
kernel and the memory may become anything. -/
inductive Since (creation : Creation) (m : Machine κ) : List EngineCall → Session κ → Prop
  | asked : Since creation m [] ((⟨none, m⟩ : Session κ).perform creation.command).2
  | called {program : List EngineCall} {s : Session κ} (call : EngineCall)
    (h : Since creation m program s) :
    Since creation m (program ++ [call]) (s.perform (.call call)).2
  | passed {program : List EngineCall} {s : Session κ} {m' : Machine κ}
    (h : Since creation m program s) (hc : m'.calls = s.machine.calls)
    (he : m'.events = s.machine.events) : Since creation m program { s with machine := m' }

/-- The engine exists, and of its conversation the end is missing. -/
structure Underway (creation : Creation) (m : Machine κ) (program : List EngineCall) (e : Engine)
    (m' : Machine κ) : Prop where
  prepared : creation.prepare m = .ok e.maxEvents
  sound : e.Sound
  unclosed : e.context.closed = false
  calls : ∃ made, m'.calls = m.calls ++ ([.setup (.ofNat e.maxEvents) (.ok e.context.id),
    .eventfd (.ok e.doorbell.file)] ++ made) ∧
    Dialogue e.context.id e.doorbell.file e.maxEvents program made

/-- There is no engine, and its conversation is over. -/
structure Over (creation : Creation) (answer : Except Refusal Answer) (m : Machine κ)
    (m' : Machine κ) : Prop where
  calls : ∃ made, m'.calls = m.calls ++ made ∧ m'.Complained made ∧
    ∀ program, Conversation creation m program answer made

variable {creation : Creation} {answer : Except Refusal Answer} {m m' : Machine κ}
  {program : List EngineCall} {e : Engine}

/-- One call adds one exchange. -/
theorem Underway.call (h : Underway creation m program e m') (call : EngineCall) :
    Underway creation m (program ++ [call]) (e.perform call m').2.1 (e.perform call m').2.2 := by
  have heff := Engine.perform_effect h.sound call .empty m'
  obtain ⟨made, hcalls, hd⟩ := h.calls
  obtain ⟨exchange, hcalls', hx⟩ := Engine.perform_exchange h.sound call m'
  refine ⟨?_, heff.sound h.sound, ?_, made ++ exchange, ?_, ?_⟩
  · rw [heff.maxEvents_eq]; exact h.prepared
  · rw [heff.keeps.context]; exact h.unclosed
  · rw [heff.maxEvents_eq, heff.keeps.context, heff.keeps.doorbell, hcalls', hcalls]
    simp only [List.append_assoc]
  · rw [heff.maxEvents_eq, heff.keeps.context, heff.keeps.doorbell]
    exact hd.snoc hx

/-- An engine whose handles were granted is at the beginning of its conversation: equipping endpoints adds
nothing to it. -/
theorem Underway.of_granted {result : Except Fault Unit} (h : creation.Granted m result e m') :
    Underway creation m [] e m' := by
  obtain @⟨size, e₀, _, m₀, _, _, hp, hc, ha⟩ := h
  have hcreated := Engine.create_eq_ok hc
  obtain ⟨hs, hcontext, hdoorbell, hmax, hcalls⟩ :=
    Engine.equipAll_frame hcreated.sound 0 creation.plans m₀
  simp only [ha] at hs hcontext hdoorbell hmax hcalls
  rw [hcreated.maxEvents_eq] at hmax
  refine ⟨by rw [hmax]; exact hp, hs, by rw [hcontext]; exact Engine.create_unclosed hc, [], ?_, .nil⟩
  rw [hmax, hcontext, hdoorbell, hcalls, hcreated.calls, List.append_nil]

/-- A creation that the kernel cut short has said all that it will say. -/
theorem Over.of_createFailed {maxEvents : Nat} {errno : Errno} (hp : creation.prepare m = .ok maxEvents)
    (h : Engine.CreateFailed maxEvents errno m m') :
    Over creation (.error (.fault (.error (.setupFailed errno)))) m m' := by
  cases h with
  | refused hk hmem hcalls =>
    exact ⟨_, hcalls, by simp [Machine.Complained, Call.complaint?], fun _ => .refused hp⟩
  | withdrawn hsetup heventfd hdestroy hmem hcalls hlogged =>
    refine ⟨_, hcalls, ?_, fun _ => .withdrawn hp⟩
    exact hlogged.after [_, _] (by simp [Call.complaint?])

/-- An engine whose endpoints cannot all be equipped is let go of at once. -/
theorem Over.of_granted {f : Fault} (h : creation.Granted m (.error f) e m') :
    Over creation (.error (.fault f)) m (e.drop m') := by
  have hu := Underway.of_granted h
  obtain ⟨made, hcalls, hd⟩ := hu.calls
  cases hd.eq_nil
  obtain ⟨destroyed, closed, hdrop⟩ := Engine.drop_spec hu.unclosed m'
  refine ⟨[.setup (.ofNat e.maxEvents) (.ok e.context.id), .eventfd (.ok e.doorbell.file)] ++
    [.destroy e.context.id destroyed, .close e.doorbell.file closed], ?_, ?_, fun program => ?_⟩
  · rw [hdrop.calls, hcalls, List.append_nil, List.append_assoc]
  · exact hdrop.complained.after _ (by simp [Call.complaint?])
  · obtain ⟨-, -, ha⟩ := h
    cases creation with
    | bare endpoints maxEvents => cases ha
    | equipped plans => exact .abandoned rfl hu.prepared

/-- A request for an engine begins its conversation or is over with it. -/
theorem asked_cases (creation : Creation) (m : Machine κ) :
    (∃ e m', (⟨none, m⟩ : Session κ).perform creation.command = (.ok .done, ⟨some e, m'⟩) ∧
      Underway creation m [] e m') ∨
    (∃ r m', (⟨none, m⟩ : Session κ).perform creation.command = (.error r, ⟨none, m'⟩) ∧
      Over creation (.error r) m m') := by
  rcases creation.perform_cases m with
    ⟨err, hp, he⟩ | ⟨size, errno, m', hp, hf, he⟩ | ⟨result, e, m', hg⟩
  · exact .inr ⟨_, m, he, [], (List.append_nil _).symm, by simp [Machine.Complained],
      fun _ => .rejected hp⟩
  · exact .inr ⟨_, m', he, .of_createFailed hp hf⟩
  · cases result with
    | error f => exact .inr ⟨_, _, hg.perform_error, .of_granted hg⟩
    | ok u => exact .inl ⟨e, m', hg.perform_ok, .of_granted hg⟩

/-- Nothing but calls of the program continues a conversation. -/
theorem Since.cases {s : Session κ} (h : Since creation m program s) :
    (∃ e m', s = ⟨some e, m'⟩ ∧
      ((⟨none, m⟩ : Session κ).perform creation.command).1 = .ok .done ∧
      Underway creation m program e m') ∨
    (∃ m', s = ⟨none, m'⟩ ∧
      Over creation ((⟨none, m⟩ : Session κ).perform creation.command).1 m m') := by
  induction h with
  | asked =>
    rcases asked_cases creation m with ⟨e, m', he, h⟩ | ⟨r, m', he, h⟩
    · rw [he]; exact .inl ⟨e, m', rfl, rfl, h⟩
    · rw [he]; exact .inr ⟨m', rfl, h⟩
  | called call _ ih =>
    rcases ih with ⟨e, m', rfl, ha, h⟩ | ⟨m', rfl, h⟩
    · exact .inl ⟨_, _, rfl, ha, h.call call⟩
    · exact .inr ⟨m', rfl, h⟩
  | @passed program s m'' _ hcalls hevents ih =>
    rcases ih with ⟨e, m', rfl, ha, h⟩ | ⟨m', rfl, h⟩
    · exact .inl ⟨e, m'', rfl, ha, h.prepared, h.sound, h.unclosed, by rw [hcalls]; exact h.calls⟩
    · obtain ⟨made, hmade, hlogged, hc⟩ := h.calls
      refine .inr ⟨m'', rfl, made, by rw [hcalls]; exact hmade, ?_, hc⟩
      intro c hm event he
      rw [hevents]
      exact hlogged c hm event he

end Session

theorem Exchange.complaint?_eq_none {id : UInt64} {file : Int32} {room : Nat} {call : EngineCall}
    {made : List Call} (h : Exchange id file room call made) : ∀ c ∈ made, c.complaint? = none := by
  cases h <;> simp [Call.complaint?]

theorem Dialogue.complaint?_eq_none {id : UInt64} {file : Int32} {room : Nat}
    {program : List EngineCall} {made : List Call} (h : Dialogue id file room program made) :
    ∀ c ∈ made, c.complaint? = none := by
  induction h with
  | nil => simp
  | snoc h hx ih =>
    intro c hm
    rcases List.mem_append.1 hm with hm | hm
    · exact ih c hm
    · exact hx.complaint?_eq_none c hm

/-- **All that an engine asks of any kernel, from the request for it to the end of its drop, is one
conversation.** One I/O context and one doorbell are asked for, then the calls of the program add at most
one submission, or one read and one collection, each; then the I/O context is given back and after it the
doorbell, each once, and nothing follows. What a creation that fails was granted is given back in the same
way, and a request that is rejected says nothing. Closing calls that fail are logged and change nothing. -/
theorem Session.Since.conversation {creation : Creation} {m : Machine κ} {program : List EngineCall}
    {s : Session κ} (h : Since creation m program s) :
    ∃ made, (s.perform .drop).2.machine.calls = m.calls ++ made ∧
      Conversation creation m program ((⟨none, m⟩ : Session κ).perform creation.command).1 made ∧
      (s.perform .drop).2.machine.Complained made ∧ (s.perform .drop).2.engine = none := by
  rcases h.cases with ⟨e, m', rfl, ha, hu⟩ | ⟨m', rfl, ho⟩
  · obtain ⟨made, hcalls, hd⟩ := hu.calls
    obtain ⟨destroyed, closed, hdrop⟩ := Engine.drop_spec hu.unclosed m'
    have hsilent : ∀ c ∈ [Call.setup (.ofNat e.maxEvents) (.ok e.context.id),
        .eventfd (.ok e.doorbell.file)] ++ made, c.complaint? = none := by
      intro c hm
      rcases List.mem_append.1 hm with hm | hm
      · simp only [List.mem_cons, List.not_mem_nil, or_false] at hm
        rcases hm with rfl | rfl <;> rfl
      · exact hd.complaint?_eq_none c hm
    refine ⟨_, ?_, ?_, hdrop.complained.after _ hsilent, rfl⟩
    · show (e.drop m').calls = _
      rw [hdrop.calls, hcalls, List.append_assoc]
    · rw [ha]
      exact .whole hu.prepared hd
  · obtain ⟨made, hcalls, hlogged, hc⟩ := ho.calls
    exact ⟨made, hcalls, hc program, hlogged, rfl⟩

/-- A conversation in which the first submission, the closing of the I/O context and that of the doorbell
are refused: each is made once. -/
theorem Session.Since.refused_conversation : ∃ (m : Machine SimulatedKernel) (s : Session SimulatedKernel),
    Since (.equipped [⟨7, .read, 2, 4, 0⟩]) m [.submit, .submit, .poll] s ∧
      (s.perform .drop).2.machine.calls.length = 7 ∧
      .closeContextFailed 1 .invalid ∈ (s.perform .drop).2.machine.events ∧
      ∃ made, (s.perform .drop).2.machine.calls = m.calls ++ made ∧
        Conversation (.equipped [⟨7, .read, 2, 4, 0⟩]) m [.submit, .submit, .poll]
          ((⟨none, m⟩ : Session SimulatedKernel).perform (.createEquipped [⟨7, .read, 2, 4, 0⟩])).1 made := by
  let m : Machine SimulatedKernel := .boot { SimulatedKernel.fresh with
    failures := [(.submit, .again), (.destroy, .invalid), (.close, .badDescriptor)] }
  have h : Since (.equipped [⟨7, .read, 2, 4, 0⟩]) m [.submit, .submit, .poll] _ :=
    .called .poll (.called .submit (.called .submit .asked))
  obtain ⟨made, hcalls, hc, -⟩ := h.conversation
  exact ⟨m, _, h, by decide +kernel, by decide +kernel, made, hcalls, hc⟩

end Gadget
