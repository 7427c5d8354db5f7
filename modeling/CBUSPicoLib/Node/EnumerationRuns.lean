import CBUSPicoLib.Library.Histories
import CBUSPicoLib.Library.Runs
import CBUSPicoLib.Node.Enumeration

/-!
# Enumerations over schedules of polls, requests and received frames

Starting an enumeration leaves the request set, so that a poll more than the hold-off
time after the start takes the start branch again instead of the one that concludes.
In schedules that poll in time each request is run once.
-/

namespace CBUSPicoLib

open Runs Histories

/-- A call that concerns the enumeration. -/
inductive EnumCall
  | processEnumeration (now : UInt32)
  | doEnum (bSendResult : Bool)
  | received (msg : CANFrame) (now : UInt32)

/-- What a history of calls records: an RTR frame sent by `processEnumeration`, the
conclusion of an enumeration, a call of `doEnum`. -/
inductive EnumLabel
  | started
  | concluded
  | requested
  deriving DecidableEq

namespace CBUSbase

instance (n : CBUSbase) (now : UInt32) : Decidable (n.Starts now) :=
  inferInstanceAs (Decidable (_ ∧ _))

instance (n : CBUSbase) (now : UInt32) : Decidable (n.Concludes now) :=
  inferInstanceAs (Decidable (_ ∧ _))

/-- The label of a call; a frame with our own identifier calls `doEnum`. -/
def enumLabel (n : CBUSbase) : EnumCall → Option EnumLabel
  | .processEnumeration now =>
    if n.Starts now then some .started else if n.Concludes now then some .concluded else none
  | .doEnum _ => some .requested
  | .received msg _ =>
    if !n.bEnumerationInProgress ∧ !n.bEnumerationRequired ∧
        msg.id = n.moduleConfig.canId.toUInt32 then some .requested else none

/-- The module and the history of its enumerations; `none` if the response table is
written out of bounds. -/
def enumStep (s : CBUSbase × List EnumLabel) (call : EnumCall) :
    Option (CBUSbase × List EnumLabel) :=
  let history := s.2 ++ (s.1.enumLabel call).toList
  match call with
  | .processEnumeration now => some (s.1.processEnumeration now, history)
  | .doEnum bSendResult => some (s.1.doEnum bSendResult, history)
  | .received msg now => (s.1.checkIncomingFrame msg now).map fun r => (r.2.2, history)

/-- A conclusion, and a new request after it. -/
def Answered (between : List EnumLabel) : Prop :=
  ∃ b₁ b₂ b₃, between = b₁ ++ .concluded :: b₂ ++ .requested :: b₃

/-- Between any two RTR frames the first enumeration has been concluded and another one
requested. -/
def OncePerRequest (history : List EnumLabel) : Prop :=
  Separated (· = EnumLabel.started) Answered history

/-- A poll finds an enumeration in progress at most the hold-off time after its start, and
no frame received meanwhile is recorded out of bounds. -/
def InTime (s : CBUSbase × List EnumLabel) : EnumCall → Prop
  | .processEnumeration now =>
    s.1.bEnumerationInProgress = true → now - s.1.enumStartTime ≤ enumerationHoldoff
  | .doEnum _ => True
  | .received msg _ => s.1.bEnumerationInProgress = true → msg.id.toNat < 256

theorem startEnumeration_flags (n : CBUSbase) (now : UInt32) :
    (n.startEnumeration now).bEnumerationRequired = true ∧
      (n.startEnumeration now).bEnumerationInProgress = true := by
  let m := { n with
    enumResponses := (Vector.replicate 16 0).set 0 1
    bEnumerationInProgress := true
    bEnumerationRequired := true
    enumStartTime := now }
  obtain ⟨p, es, hm, -⟩ := m.replies_sendMessage {} true false defaultPriority
  exact ⟨congrArg (·.bEnumerationRequired) hm, congrArg (·.bEnumerationInProgress) hm⟩

theorem concludeEnumeration_flags (n : CBUSbase) :
    n.concludeEnumeration.bEnumerationRequired = false ∧
      n.concludeEnumeration.bEnumerationInProgress = false := ⟨rfl, rfl⟩

theorem checkIncomingFrame_flags {n : CBUSbase} {msg : CANFrame} {now : UInt32}
    {r : Bool × CANFrame × CBUSbase} (h : n.checkIncomingFrame msg now = some r) :
    r.2.2.bEnumerationInProgress = n.bEnumerationInProgress ∧
      r.2.2.bEnumerationRequired = (n.bEnumerationRequired ||
        (n.enumLabel (.received msg now)).isSome) := by
  obtain ⟨m, hm, rfl⟩ := Option.map_eq_some_iff.mp h
  rw [(m.answerFrame_enum msg now).2, (m.answerFrame_request msg now).1]
  unfold recordFrame at hm
  unfold enumLabel
  split_ifs at hm with hp hlt hr
  · cases hm
    simp [hp]
  · cases hm
    have hnot : n.bEnumerationInProgress = false := by simpa using hp
    simp [doEnum, hnot, hr]
  · cases hm
    have hnot : n.bEnumerationInProgress = false := by simpa using hp
    simp only [hnot, Bool.not_false, true_and, if_neg hr]
    simp

/-- What a call can do to the flags and the history. -/
inductive EnumEffect (n m : CBUSbase) (history : List EnumLabel) : List EnumLabel → Prop
  | started (required : n.bEnumerationRequired = true) (requiredAfter : m.bEnumerationRequired = true)
      (inProgress : m.bEnumerationInProgress = true) :
      EnumEffect n m history (history ++ [.started])
  | concluded (required : m.bEnumerationRequired = false)
      (idle : m.bEnumerationInProgress = false) : EnumEffect n m history (history ++ [.concluded])
  | requested (inProgress : m.bEnumerationInProgress = n.bEnumerationInProgress)
      (required : m.bEnumerationRequired = (n.bEnumerationRequired || !n.bEnumerationInProgress)) :
      EnumEffect n m history (history ++ [.requested])
  | keep (inProgress : m.bEnumerationInProgress = n.bEnumerationInProgress)
      (required : m.bEnumerationRequired = n.bEnumerationRequired) : EnumEffect n m history history

theorem enumStep_effect {s t : CBUSbase × List EnumLabel} {call : EnumCall}
    (h : enumStep s call = some t) : EnumEffect s.1 t.1 s.2 t.2 := by
  obtain ⟨n, history⟩ := s
  cases call with
  | processEnumeration now =>
    cases h
    by_cases hs : n.Starts now
    · have hpoll : n.processEnumeration now = n.startEnumeration now := if_pos hs
      have hlabel : n.enumLabel (.processEnumeration now) = some .started := if_pos hs
      rw [hpoll, hlabel]
      exact .started hs.1 (n.startEnumeration_flags now).1 (n.startEnumeration_flags now).2
    · by_cases hc : n.Concludes now
      · have hpoll : n.processEnumeration now = n.concludeEnumeration :=
          (if_neg hs).trans (if_pos hc.2)
        have hlabel : n.enumLabel (.processEnumeration now) = some .concluded :=
          (if_neg hs).trans (if_pos hc)
        rw [hpoll, hlabel]
        exact .concluded n.concludeEnumeration_flags.1 n.concludeEnumeration_flags.2
      · have hpoll : n.processEnumeration now = n :=
          (if_neg hs).trans (if_neg fun h => hc ⟨hs, h⟩)
        have hlabel : n.enumLabel (.processEnumeration now) = none :=
          (if_neg hs).trans (if_neg hc)
        rw [hpoll, hlabel, Option.toList_none, List.append_nil]
        exact .keep rfl rfl
  | doEnum bSendResult =>
    cases h
    apply EnumEffect.requested
    · unfold doEnum
      dsimp only
      split_ifs <;> rfl
    · unfold doEnum
      dsimp only
      cases n.bEnumerationInProgress with
      | true => simp
      | false => simp
  | received msg now =>
    obtain ⟨r, hr, rfl⟩ := Option.map_eq_some_iff.mp h
    obtain ⟨hprog, hreq⟩ := checkIncomingFrame_flags hr
    dsimp only at hprog hreq ⊢
    by_cases hc : !n.bEnumerationInProgress ∧ !n.bEnumerationRequired ∧
        msg.id = n.moduleConfig.canId.toUInt32
    · have hlabel : n.enumLabel (.received msg now) = some .requested := if_pos hc
      have hidle : n.bEnumerationInProgress = false := by simpa using hc.1
      rw [hlabel] at hreq ⊢
      exact .requested hprog (by simpa [hidle] using hreq)
    · have hlabel : n.enumLabel (.received msg now) = none := if_neg hc
      rw [hlabel] at hreq ⊢
      rw [Option.toList_none, List.append_nil]
      exact .keep hprog (by simpa using hreq)

/-- What the flags say about the history. -/
structure Tracks (s : CBUSbase × List EnumLabel) : Prop where
  once : OncePerRequest s.2
  inProgress : s.1.bEnumerationInProgress = true → s.1.bEnumerationRequired = true ∧
    ∃ a b, s.2 = a ++ .started :: b ∧ .concluded ∉ b
  idle : s.1.bEnumerationInProgress = false →
    Since (· = EnumLabel.started) (.concluded ∈ ·) s.2
  pending : s.1.bEnumerationInProgress = false → s.1.bEnumerationRequired = true →
    Since (· = EnumLabel.started) Answered s.2

theorem answered_snoc {b : List EnumLabel} (h : .concluded ∈ b) : Answered (b ++ [.requested]) := by
  obtain ⟨b₁, b₂, rfl⟩ := List.append_of_mem h
  exact ⟨b₁, b₂, [], by simp⟩

theorem Answered.concluded_mem {b : List EnumLabel} (h : Answered b) : .concluded ∈ b := by
  obtain ⟨b₁, b₂, b₃, rfl⟩ := h
  simp

theorem Tracks.start {n : CBUSbase} (h : n.bEnumerationInProgress = false) : Tracks (n, []) where
  once := separated_nil
  inProgress := fun hp => absurd (h.symm.trans hp) Bool.false_ne_true
  idle := fun _ => since_nil
  pending := fun _ _ => since_nil

/-- Unless an enumeration is started while one is in progress, the flags keep track. -/
theorem Tracks.step {n m : CBUSbase} {history history' : List EnumLabel} (h : Tracks (n, history))
    (heff : EnumEffect n m history history')
    (hfree : history' = history ++ [.started] → n.bEnumerationInProgress = false) :
    Tracks (m, history') := by
  cases heff with
  | started required requiredAfter inProgress =>
    have hidle := hfree rfl
    constructor
    · exact h.once.snoc fun _ => h.pending hidle required
    · exact fun _ => ⟨requiredAfter, history, [], rfl, List.not_mem_nil⟩
    · exact fun hno => absurd (inProgress.symm.trans hno) (by decide)
    · exact fun hno => absurd (inProgress.symm.trans hno) (by decide)
  | concluded required idle =>
    constructor
    · exact h.once.snoc fun he => absurd he (by decide)
    · exact fun hp => absurd (idle.symm.trans hp) (by decide)
    · intro _ a x b hx he
      rcases snoc_eq_append_cons he with ⟨-, -, rfl⟩ | ⟨b', rfl, -⟩
      · exact absurd hx (by decide)
      · simp
    · exact fun _ hr => absurd (required.symm.trans hr) (by decide)
  | requested inProgress required =>
    constructor
    · exact h.once.snoc fun he => absurd he (by decide)
    · intro hp
      obtain ⟨hreq, a, b, hab, hmem⟩ := h.inProgress (inProgress.symm.trans hp)
      dsimp only at hreq hab
      refine ⟨by rw [required, hreq]; rfl, a, b ++ [.requested], by simp [hab], by simpa using hmem⟩
    · intro hno
      exact (h.idle (inProgress.symm.trans hno)).snoc
        (fun b hb => List.mem_append_left _ hb) (by decide)
    · intro hno _
      exact (h.idle (inProgress.symm.trans hno)).snoc (fun b hb => answered_snoc hb) (by decide)
  | keep inProgress required =>
    constructor
    · exact h.once
    · intro hp
      obtain ⟨hreq, hab⟩ := h.inProgress (inProgress.symm.trans hp)
      exact ⟨required.trans hreq, hab⟩
    · exact fun hno => h.idle (inProgress.symm.trans hno)
    · exact fun hno hr => h.pending (inProgress.symm.trans hno) (required.symm.trans hr)

theorem enumStep_history {s t : CBUSbase × List EnumLabel} {call : EnumCall}
    (h : enumStep s call = some t) : t.2 = s.2 ++ (s.1.enumLabel call).toList := by
  cases call with
  | processEnumeration now =>
    cases h
    rfl
  | doEnum bSendResult =>
    cases h
    rfl
  | received msg now =>
    obtain ⟨r, -, rfl⟩ := Option.map_eq_some_iff.mp h
    rfl

theorem starts_of_enumLabel {n : CBUSbase} {call : EnumCall}
    (h : n.enumLabel call = some .started) :
    ∃ now, call = .processEnumeration now ∧ n.Starts now := by
  cases call with
  | processEnumeration now =>
    refine ⟨now, rfl, ?_⟩
    by_contra hs
    have hlabel : n.enumLabel (.processEnumeration now) =
        if n.Concludes now then some .concluded else none := if_neg hs
    rw [hlabel] at h
    split_ifs at h
    exact absurd h (by decide)
  | doEnum bSendResult => exact absurd h (by simp [enumLabel])
  | received msg now =>
    unfold enumLabel at h
    dsimp only at h
    split_ifs at h
    exact absurd h (by decide)

theorem enumStep_defined {s : CBUSbase × List EnumLabel} {call : EnumCall} (ht : InTime s call) :
    ∃ t, enumStep s call = some t := by
  cases call with
  | processEnumeration now => exact ⟨_, rfl⟩
  | doEnum bSendResult => exact ⟨_, rfl⟩
  | received msg now =>
    cases hp : s.1.bEnumerationInProgress with
    | true =>
      obtain ⟨r, hr, -⟩ := checkIncomingFrame_inProgress hp msg now (ht hp)
      exact ⟨_, Option.map_eq_some_iff.mpr ⟨r, hr, rfl⟩⟩
    | false =>
      obtain ⟨m, hm⟩ : ∃ m, s.1.recordFrame msg now = some m := by
        unfold recordFrame
        rw [if_neg (by simp [hp])]
        split_ifs
        · exact ⟨_, rfl⟩
        · exact ⟨_, rfl⟩
      have hr : s.1.checkIncomingFrame msg now = some (m.answerFrame msg now) :=
        Option.map_eq_some_iff.mpr ⟨m, hm, rfl⟩
      exact ⟨_, Option.map_eq_some_iff.mpr ⟨_, hr, rfl⟩⟩

theorem Tracks.enumStep {s : CBUSbase × List EnumLabel} {call : EnumCall} (h : Tracks s)
    (ht : InTime s call) : ∃ t, CBUSbase.enumStep s call = some t ∧ Tracks t := by
  obtain ⟨t, hstep⟩ := enumStep_defined ht
  refine ⟨t, hstep, h.step (enumStep_effect hstep) ?_⟩
  intro hstarted
  rw [enumStep_history hstep] at hstarted
  have hlabel : s.1.enumLabel call = some .started := by
    have htail := List.append_cancel_left hstarted
    cases hl : s.1.enumLabel call with
    | none => simp [hl] at htail
    | some l => simpa [hl] using htail
  obtain ⟨now, rfl, hs⟩ := starts_of_enumLabel hlabel
  -- the hold-off time has passed, so that a poll in time finds nothing in progress
  by_contra hp
  have hin : s.1.bEnumerationInProgress = true := by simpa using hp
  exact absurd (ht hin) (UInt32.not_le.mpr hs.2)

theorem Tracks.late {s t : CBUSbase × List EnumLabel} {call : EnumCall} (h : Tracks s)
    (ht : ¬ InTime s call) (hstep : CBUSbase.enumStep s call = some t) : ¬ OncePerRequest t.2 := by
  cases call with
  | processEnumeration now =>
    obtain ⟨hp, hlate⟩ := Classical.not_imp.mp ht
    obtain ⟨hreq, a, b, hab, hmem⟩ := h.inProgress hp
    have hs : s.1.Starts now := ⟨hreq, UInt32.not_le.mp hlate⟩
    have hlabel : s.1.enumLabel (.processEnumeration now) = some .started := if_pos hs
    rw [enumStep_history hstep, hlabel, hab]
    exact not_separated_snoc rfl rfl fun hb => hmem hb.concluded_mem
  | doEnum bSendResult => exact absurd trivial ht
  | received msg now =>
    obtain ⟨hp, hid⟩ := Classical.not_imp.mp ht
    obtain ⟨r, hr, -⟩ := Option.map_eq_some_iff.mp hstep
    rw [checkIncomingFrame_outside hp msg now (Nat.le_of_not_lt hid)] at hr
    exact absurd hr (by simp)

/-- From a module with no enumeration in progress, whatever is polled, requested and
received: each request is run once, and no frame is recorded out of bounds, as long as
every call is in time, and no longer. -/
theorem oncePerRequest_iff (n : CBUSbase) (hn : n.bEnumerationInProgress = false)
    (calls : List EnumCall) :
    (∀ ps, ps <+: calls → ∃ s, runOption enumStep (n, []) ps = some s ∧ OncePerRequest s.2) ↔
      GuardedOption enumStep InTime (n, []) calls :=
  forall_prefix_iff_guardedOption (fun _ _ h _ ht => h.enumStep ht) (fun _ h => h.once)
    (fun _ _ _ h _ ht hstep => h.late ht hstep) (Tracks.start hn) (guardedOption_true (n, []) calls)

theorem oncePerRequest_iff_smallModule :
    (∀ ps, ps <+: [EnumCall.doEnum true, .processEnumeration 300, .processEnumeration 450] →
      ∃ s, runOption enumStep (smallModule, []) ps = some s ∧ OncePerRequest s.2) ↔
      GuardedOption enumStep InTime (smallModule, [])
        [.doEnum true, .processEnumeration 300, .processEnumeration 450] :=
  oncePerRequest_iff smallModule rfl _

def slowPolls : List EnumCall := [.doEnum true, .processEnumeration 300, .processEnumeration 501]

/-- The enumeration is started twice. -/
theorem not_oncePerRequest_slowPolls :
    smallModule.bEnumerationInProgress = false ∧
      ∃ s, runOption enumStep (smallModule, []) slowPolls = some s ∧ ¬ OncePerRequest s.2 := by
  have hhistory : (runOption enumStep (smallModule, []) slowPolls).map (·.2) =
      some [.requested, .started, .started] := by decide +kernel
  obtain ⟨s, hs, h2⟩ := Option.map_eq_some_iff.mp hhistory
  refine ⟨rfl, s, hs, ?_⟩
  rw [h2]
  have hbetween : ¬ Answered [] := fun hb => List.not_mem_nil hb.concluded_mem
  have htwice : ¬ OncePerRequest ([.requested] ++ .started :: [] ++ [.started]) :=
    not_separated_snoc rfl rfl hbetween
  exact htwice

end CBUSbase
end CBUSPicoLib
