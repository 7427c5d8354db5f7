import CBUSPicoLib.Node.Enumeration
import CBUSPicoLib.Node.Forwarding

/-!
# Detecting a second module with our CAN ID

The receive interrupt compares the identifier of a frame with our CAN ID. The sender's
`makeHeader` has put four priority bits above the CAN ID, and the controller reports the
RTR bit in the same word; none of them is taken off before the comparison.
-/

namespace CBUSPicoLib

/-- The message that the CAN controller reports. -/
structure Can2040Msg where
  id : UInt32
  dlc : UInt32
  data : Vector UInt8 8

def can2040IdRtr : UInt32 := 0x40000000
def can2040IdEff : UInt32 := 0x80000000

/-- The identifier word with which a frame arrives whose header was built by `makeHeader`. -/
def arrivingId (canId priority : UInt8) (rtr : Bool) : UInt32 :=
  let id := (makeHeaderImpl {} canId priority).id
  if rtr then id ||| can2040IdRtr else id

namespace CBUSbase

/-- The frame that `notify_cb` makes of a message. -/
def receivedFrame (amsg : Can2040Msg) : CANFrame :=
  let len := amsg.dlc.toUInt8
  { id := amsg.id
    len
    data := Vector.ofFn fun i => if i.val < len.toNat then amsg.data.get i else 0
    rtr := amsg.id &&& can2040IdRtr ≠ 0
    ext := amsg.id &&& can2040IdEff ≠ 0 }

def notifyCb (n : CBUSbase) (amsg : Can2040Msg) (now micros : UInt32) : Option CBUSbase :=
  match n.rxBuffer with
  | none => some n
  | some b =>
    (n.checkIncomingFrame (receivedFrame amsg) now).map fun (bMsgFound, msg, n) =>
      if bMsgFound then { n with rxBuffer := some (b.put msg micros) } else n

/-- What the receive interrupt has to make of a frame of another module, at any time: a
frame with our CAN ID requests an enumeration and restarts the hold-off time, any other
frame does neither. -/
def DetectsConflict (n : CBUSbase) (canId priority : UInt8) (rtr : Bool) (dlc : UInt32)
    (data : Vector UInt8 8) : Prop :=
  ∀ now micros,
    ∃ m, n.notifyCb ⟨arrivingId canId priority rtr, dlc, data⟩ now micros = some m ∧
      (canId = n.moduleConfig.canId → m.bEnumerationRequired = true ∧ m.enumStartTime = now) ∧
      (canId ≠ n.moduleConfig.canId →
        m.bEnumerationRequired = false ∧ m.enumStartTime = n.enumStartTime)

/-- The request and the hold-off time depend on the comparison and on the RTR bit only. -/
theorem notifyCb_idle {n : CBUSbase} (hbuf : n.rxBuffer.isSome = true)
    (hreq : n.bEnumerationRequired = false) (hprog : n.bEnumerationInProgress = false)
    (amsg : Can2040Msg) (now micros : UInt32) :
    ∃ m, n.notifyCb amsg now micros = some m ∧
      m.bEnumerationRequired = decide (amsg.id = n.moduleConfig.canId.toUInt32) ∧
      m.enumStartTime = if amsg.id = n.moduleConfig.canId.toUInt32 ∨
        amsg.id &&& can2040IdRtr ≠ 0 then now else n.enumStartTime := by
  obtain ⟨b, hb⟩ := Option.isSome_iff_exists.mp hbuf
  -- the state once the identifier has been compared
  let k := if amsg.id = n.moduleConfig.canId.toUInt32 then
    { n.doEnum false with enumStartTime := now } else n
  have hrec : n.recordFrame (receivedFrame amsg) now = some k := by
    unfold recordFrame
    rw [hprog, hreq]
    by_cases hid : amsg.id = n.moduleConfig.canId.toUInt32
    · simp [receivedFrame, k, hid]
    · simp [receivedFrame, k, hid]
  have hk : k.bEnumerationRequired = decide (amsg.id = n.moduleConfig.canId.toUInt32) ∧
      k.enumStartTime =
        if amsg.id = n.moduleConfig.canId.toUInt32 then now else n.enumStartTime := by
    unfold k
    by_cases hid : amsg.id = n.moduleConfig.canId.toUInt32
    · simp [hid, doEnum, hprog]
    · simp [hid, hreq]
  obtain ⟨hanswer, htime⟩ := k.answerFrame_request (receivedFrame amsg) now
  have hcheck : n.checkIncomingFrame (receivedFrame amsg) now =
      some (k.answerFrame (receivedFrame amsg) now) := by
    rw [checkIncomingFrame, hrec, Option.map_some]
  have hflag : (receivedFrame amsg).rtr = decide (amsg.id &&& can2040IdRtr ≠ 0) := rfl
  let r := k.answerFrame (receivedFrame amsg) now
  refine ⟨if r.1 then { r.2.2 with rxBuffer := some (b.put r.2.1 micros) } else r.2.2, ?_, ?_, ?_⟩
  · unfold notifyCb
    rw [hb, hcheck]
    rfl
  · rw [← hk.1, ← hanswer]
    split_ifs <;> rfl
  · have hr : r.2.2.enumStartTime = if amsg.id = n.moduleConfig.canId.toUInt32 ∨
        amsg.id &&& can2040IdRtr ≠ 0 then now else n.enumStartTime := by
      rw [htime, hk.2, hflag]
      by_cases hid : amsg.id = n.moduleConfig.canId.toUInt32 <;> simp [hid]
    rw [← hr]
    split_ifs <;> rfl

theorem toNat_arrivingId (canId : UInt8) {priority : UInt8} (hp : priority.toNat < 16) :
    (arrivingId canId priority false).toNat = 128 * priority.toNat + canId.toNat % 128 := by
  have hlow : (canId &&& 0x7f).toNat = canId.toNat % 128 :=
    (UInt8.toNat_and _ _).trans (Nat.and_two_pow_sub_one_eq_mod _ 7)
  simp only [arrivingId, makeHeaderImpl, hlow, Nat.shiftLeft_eq, UInt32.toNat_ofNat',
    Bool.false_eq_true, if_false]
  omega

theorem arrivingId_rtr (canId : UInt8) {priority : UInt8} (hp : priority.toNat < 16) (rtr : Bool) :
    (arrivingId canId priority rtr &&& can2040IdRtr ≠ 0) ↔ rtr = true := by
  have hid := toNat_arrivingId canId hp
  have hlt := Nat.mod_lt canId.toNat (by decide : 0 < 128)
  have hshort : (arrivingId canId priority false).toNat < 2048 := by omega
  have hbit := (header_with_rtr hshort rtr).2
  have hword : arrivingId canId priority rtr = if rtr then
      arrivingId canId priority false ||| 0x40000000 else arrivingId canId priority false := by
    cases rtr <;> rfl
  rw [← hword] at hbit
  constructor
  · exact fun h => hbit.symm.trans (decide_eq_true h)
  · exact fun h => of_decide_eq_true (hbit.trans h)

theorem arrivingId_ne_canId (canId : UInt8) {priority : UInt8} (hp : priority.toNat < 16)
    (own : UInt8) :
    arrivingId canId priority true ≠ own.toUInt32 := by
  intro he
  have hlt := own.toNat_lt
  have hshort : own.toUInt32.toNat < 2048 := by
    rw [UInt8.toNat_toUInt32]
    omega
  have hbit := (header_with_rtr hshort false).2
  have hset := (arrivingId_rtr canId hp true).mpr rfl
  rw [he] at hset
  exact of_decide_eq_false hbit hset

/-- Without it the word is our CAN ID if the priority is zero and the CAN IDs agree, or
if our own has a bit above the seven of a CAN ID that the priority hits. -/
theorem arrivingId_eq_canId_iff {canId priority : UInt8} (hc : canId.toNat < 128)
    (hp : priority.toNat < 16) (own : UInt8) :
    arrivingId canId priority false = own.toUInt32 ↔
      priority = 0 ∧ canId = own ∨ priority = 1 ∧ own.toNat = canId.toNat + 128 := by
  have hid := toNat_arrivingId canId hp
  have hown := own.toNat_lt
  have h0 : (0 : UInt8).toNat = 0 := rfl
  have h1 : (1 : UInt8).toNat = 1 := rfl
  rw [← UInt32.toNat_inj, hid, UInt8.toNat_toUInt32, ← UInt8.toNat_inj, ← UInt8.toNat_inj,
    ← UInt8.toNat_inj, h0, h1]
  omega

theorem comparison_exact_iff {canId priority : UInt8} (hc : canId.toNat < 128)
    (hp : priority.toNat < 16) {own : UInt8} :
    (canId = own ↔ arrivingId canId priority false = own.toUInt32) ↔
      priority = 0 ∨ (canId ≠ own ∧ ¬ (priority = 1 ∧ own.toNat = canId.toNat + 128)) := by
  have hpriority : ¬ (priority = 0 ∧ priority = 1) := by
    rintro ⟨rfl, h⟩
    exact absurd h (by decide)
  rw [arrivingId_eq_canId_iff hc hp]
  constructor
  · intro h
    by_cases hown : canId = own
    · rcases h.mp hown with ⟨h0, -⟩ | ⟨-, hbit⟩
      · exact Or.inl h0
      · rw [hown] at hbit
        omega
    · exact Or.inr ⟨hown, fun hbit => hown (h.mpr (Or.inr hbit))⟩
  · intro h
    constructor
    · intro hown
      rcases h with h0 | ⟨hne, -⟩
      · exact Or.inl ⟨h0, hown⟩
      · exact absurd hown hne
    · rintro (⟨-, hown⟩ | hbit)
      · exact hown
      · rcases h with h0 | ⟨-, hno⟩
        · exact absurd ⟨h0, hbit.1⟩ hpriority
        · exact absurd hbit hno

theorem not_detectsConflict_rtr {n : CBUSbase} (hbuf : n.rxBuffer.isSome = true)
    (hreq : n.bEnumerationRequired = false) (hprog : n.bEnumerationInProgress = false)
    (canId : UInt8) {priority : UInt8} (hp : priority.toNat < 16) (dlc : UInt32)
    (data : Vector UInt8 8) : ¬ n.DetectsConflict canId priority true dlc data := by
  intro h
  -- any time but that of the hold-off so far shows the restart
  obtain ⟨m, hm, hown, hother⟩ := h (n.enumStartTime + 1) 0
  obtain ⟨k, hk, hrequired, htime⟩ := notifyCb_idle hbuf hreq hprog
    ⟨arrivingId canId priority true, dlc, data⟩ (n.enumStartTime + 1) 0
  cases hk.symm.trans hm
  have hne := arrivingId_ne_canId canId hp n.moduleConfig.canId
  have hrtr := (arrivingId_rtr canId hp true).mpr rfl
  rw [if_pos (Or.inr hrtr)] at htime
  by_cases hid : canId = n.moduleConfig.canId
  · have hset := (hown hid).1
    simp [hrequired, hne] at hset
  · have hsame := htime.symm.trans (hother hid).2
    simp at hsame

/-- Outside an enumeration the conflict is detected, and no other frame taken for one, exactly
for data frames of the priority zero, or from another CAN ID (and, should our own be no
7-bit number, not one that it collides with through the priority). -/
theorem detectsConflict_iff (n : CBUSbase) (hbuf : n.rxBuffer.isSome = true)
    (hreq : n.bEnumerationRequired = false) (hprog : n.bEnumerationInProgress = false)
    (canId priority : UInt8) (hc : canId.toNat < 128) (hp : priority.toNat < 16) (rtr : Bool)
    (dlc : UInt32) (data : Vector UInt8 8) :
    n.DetectsConflict canId priority rtr dlc data ↔
      rtr = false ∧ (priority = 0 ∨ (canId ≠ n.moduleConfig.canId ∧
        ¬ (priority = 1 ∧ n.moduleConfig.canId.toNat = canId.toNat + 128))) := by
  cases rtr with
  | true => simp [not_detectsConflict_rtr hbuf hreq hprog canId hp dlc data]
  | false =>
    have hrtr : ¬ (arrivingId canId priority false &&& can2040IdRtr ≠ 0) := fun h =>
      absurd ((arrivingId_rtr canId hp false).mp h) (by decide)
    rw [← comparison_exact_iff hc hp]
    simp only [true_and]
    constructor
    · intro h
      obtain ⟨m, hm, hown, hother⟩ := h 0 0
      obtain ⟨k, hk, hrequired, -⟩ :=
        notifyCb_idle hbuf hreq hprog ⟨arrivingId canId priority false, dlc, data⟩ 0 0
      cases hk.symm.trans hm
      constructor
      · intro hid
        exact of_decide_eq_true (hrequired.symm.trans (hown hid).1)
      · intro hmatch
        by_contra hid
        exact of_decide_eq_false (hrequired.symm.trans (hother hid).1) hmatch
    · intro hagree now micros
      obtain ⟨m, hm, hrequired, htime⟩ :=
        notifyCb_idle hbuf hreq hprog ⟨arrivingId canId priority false, dlc, data⟩ now micros
      refine ⟨m, hm, fun hid => ?_, fun hid => ?_⟩
      · have hmatch := hagree.mp hid
        exact ⟨hrequired.trans (decide_eq_true hmatch), htime.trans (if_pos (Or.inl hmatch))⟩
      · have hno := fun hmatch => hid (hagree.mpr hmatch)
        exact ⟨hrequired.trans (decide_eq_false hno),
          htime.trans (if_neg fun h => h.elim hno hrtr)⟩

/-- The small module, whose CAN ID is 5, with a receive buffer. -/
def listeningModule : CBUSbase :=
  { smallModule with rxBuffer := some (CBUSCircularBuffer.construct 4) }

theorem detectsConflict_iff_listening :
    listeningModule.DetectsConflict 5 0 false 3 (Vector.replicate 8 0) ↔
      false = false ∧ ((0 : UInt8) = 0 ∨ ((5 : UInt8) ≠ listeningModule.moduleConfig.canId ∧
        ¬ ((0 : UInt8) = 1 ∧
          listeningModule.moduleConfig.canId.toNat = (5 : UInt8).toNat + 128))) :=
  detectsConflict_iff listeningModule rfl rfl rfl 5 0 (by decide) (by decide) false 3
    (Vector.replicate 8 0)

theorem not_detectsConflict_defaultPriority :
    listeningModule.bEnumerationRequired = false ∧
      listeningModule.bEnumerationInProgress = false ∧ listeningModule.moduleConfig.canId = 5 ∧
      ¬ listeningModule.DetectsConflict 5 defaultPriority false 3 (Vector.replicate 8 0) := by
  have hown : listeningModule.moduleConfig.canId = 5 := by decide +kernel
  refine ⟨rfl, rfl, hown, ?_⟩
  intro h
  obtain ⟨m, hm, hconflict, -⟩ := h 300 7
  obtain ⟨k, hk, hrequired, -⟩ := notifyCb_idle (n := listeningModule) rfl rfl rfl
    ⟨arrivingId 5 defaultPriority false, 3, Vector.replicate 8 0⟩ 300 7
  cases hk.symm.trans hm
  have hset := (hconflict hown.symm).1
  rw [hrequired, hown] at hset
  exact absurd hset (by decide)

end CBUSbase
end CBUSPicoLib
