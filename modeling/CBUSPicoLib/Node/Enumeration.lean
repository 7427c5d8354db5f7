import CBUSPicoLib.Library.ByteBitmap
import CBUSPicoLib.Node.CommandSteps

/-!
# CAN ID self-enumeration

The module asks with an RTR frame, records the CAN IDs of the frames it receives
in `enumResponses` for 100 ms and takes the first unmarked ID. The recording
derives byte and bit index from the whole identifier of the frame, which carries
the priority above the seven bits of the CAN ID.
-/

namespace CBUSPicoLib

open ByteBitmap

def enumerationTimeout : UInt32 := 100
def enumerationHoldoff : UInt32 := 200

namespace CBUSbase

/-- Record the sender of a frame while an enumeration is in progress, or start
one if the frame carries our own CAN ID. The result is `none` if the response
table would be written out of bounds. -/
def recordFrame (n : CBUSbase) (msg : CANFrame) (now : UInt32) : Option CBUSbase :=
  if n.bEnumerationInProgress then
    if h : msg.id.toNat / 16 < 16 then
      some { n with
        enumResponses := insertAt n.enumResponses (msg.id.toNat / 16) (msg.id.toNat % 8) h }
    else none
  else if !n.bEnumerationRequired ∧ msg.id = n.moduleConfig.canId.toUInt32 then
    some { n.doEnum false with enumStartTime := now }
  else some n

/-- Answer an RTR frame; tell whether any other frame is to be queued. -/
def answerFrame (n : CBUSbase) (msg : CANFrame) (now : UInt32) : Bool × CANFrame × CBUSbase :=
  if msg.rtr then
    let (_, msg, n) := n.sendMessage { msg with len := 0 }
    (false, msg, { n with enumStartTime := now })
  else if !msg.ext then (0 < msg.len, if 8 < msg.len then { msg with len := 8 } else msg, n)
  else (false, msg, n)

/-- `checkIncomingFrame`, called from the receive interrupt. -/
def checkIncomingFrame (n : CBUSbase) (msg : CANFrame) (now : UInt32) :
    Option (Bool × CANFrame × CBUSbase) :=
  (n.recordFrame msg now).map fun n => n.answerFrame msg now

/-- The first CAN ID that is not marked, `none` if all are. -/
def searchCanId (responses : Vector UInt8 16) : Option UInt8 :=
  ((List.range 16).find? fun i => (responses[i]?).getD 0 != 0xFF).map fun i =>
    scanFree (UInt8.ofNat (i * 8)) ((responses[i]?).getD 0)

def startEnumeration (n : CBUSbase) (now : UInt32) : CBUSbase :=
  let n := { n with
    enumResponses := (Vector.replicate 16 0).set 0 1
    bEnumerationInProgress := true
    bEnumerationRequired := true
    enumStartTime := now }
  (n.sendMessage {} true false).2.2

/-- Conclude: take the first free CAN ID if it is a valid one. -/
def concludeEnumeration (n : CBUSbase) : CBUSbase :=
  let n :=
    match searchCanId n.enumResponses with
    | some newCanId =>
      if 1 ≤ newCanId ∧ newCanId ≤ 99 then
        let n := { n with moduleConfig := (n.moduleConfig.setCANID newCanId).2 }
        if n.bResultRequired then n.sendOpcMyNN opcNnack else n
      else n
    | none => if n.bResultRequired then n.sendCMDERR cmderrInvalidEvent else n
  { n with bEnumerationRequired := false, bEnumerationInProgress := false }

def processEnumeration (n : CBUSbase) (now : UInt32) : CBUSbase :=
  if n.bEnumerationRequired ∧ enumerationHoldoff < now - n.enumStartTime then
    n.startEnumeration now
  else if n.bEnumerationInProgress ∧ enumerationTimeout < now - n.enumStartTime then
    n.concludeEnumeration
  else n

/-- What `processEnumeration` can do, replies left out. -/
inductive EnumerationStep (n : CBUSbase) : CBUSbase → Prop
  | keep : EnumerationStep n n
  | start (enumResponses : Vector UInt8 16) (now : UInt32) {m : CBUSbase}
      (replies : Replies { n with
        enumResponses := enumResponses
        bEnumerationInProgress := true
        bEnumerationRequired := true
        enumStartTime := now } m) : EnumerationStep n m
  | conclude (c : CBUSConfig) (config : c = n.moduleConfig ∨
      ∃ canId, c = (n.moduleConfig.setCANID canId).2) {m : CBUSbase}
      (replies : Replies { n with moduleConfig := c } m) :
      EnumerationStep n { m with bEnumerationRequired := false, bEnumerationInProgress := false }

theorem enumerationStep_processEnumeration (n : CBUSbase) (now : UInt32) :
    EnumerationStep n (n.processEnumeration now) := by
  unfold processEnumeration
  split_ifs
  · exact .start _ now (replies_sendMessage _ {} true false defaultPriority)
  · unfold concludeEnumeration
    split
    case h_1 newCanId _ =>
      dsimp only
      split_ifs
      · exact .conclude _ (.inr ⟨newCanId, rfl⟩) (replies_sendOpcMyNN _ _ _ _ _ _ _ _)
      · exact .conclude _ (.inr ⟨newCanId, rfl⟩) (Replies.refl _)
      · exact .conclude _ (.inl rfl) (Replies.refl _)
    case h_2 =>
      dsimp only
      split_ifs
      · exact .conclude _ (.inl rfl) (n.replies_sendCMDERR _)
      · exact .conclude _ (.inl rfl) (Replies.refl _)
  · exact .keep

/-- The frames received in the window, each with the time of its reception. -/
def checkFrames (n : CBUSbase) : List (CANFrame × UInt32) → Option CBUSbase
  | [] => some n
  | (msg, now) :: rest => (n.checkIncomingFrame msg now).bind fun r => r.2.2.checkFrames rest

/-- The CAN ID of a frame: the low seven bits of its identifier. -/
def senderId (msg : CANFrame) : ℕ := msg.id.toNat % 128

/-- `processEnumeration` starts an enumeration at this time. -/
def Starts (n : CBUSbase) (now : UInt32) : Prop :=
  n.bEnumerationRequired = true ∧ enumerationHoldoff < now - n.enumStartTime

/-- `processEnumeration` concludes the enumeration at this time. -/
def Concludes (n : CBUSbase) (now : UInt32) : Prop :=
  ¬ n.Starts now ∧ n.bEnumerationInProgress = true ∧ enumerationTimeout < now - n.enumStartTime

/-- The table marks exactly ID 0 and the given IDs. -/
def Marks (n : CBUSbase) (frames : List (CANFrame × UInt32)) : Prop :=
  ∀ k < 128, mem n.enumResponses k = true ↔ k = 0 ∨ ∃ f ∈ frames, senderId f.1 = k

/-- The frames are recorded within the table and exactly, and the CAN ID that a
conclusion assigns is none of theirs. -/
def Recorded (n : CBUSbase) (frames : List (CANFrame × UInt32)) : Prop :=
  ∃ m, n.checkFrames frames = some m ∧ m.Marks frames ∧
    ∀ now newCanId, m.Concludes now → searchCanId m.enumResponses = some newCanId →
      1 ≤ newCanId → newCanId ≤ 99 →
        (m.processEnumeration now).moduleConfig.canId = newCanId ∧
          ∀ f ∈ frames, newCanId.toNat ≠ senderId f.1

theorem answerFrame_frame (n : CBUSbase) (msg : CANFrame) (now : UInt32) :
    ∃ port, (n.answerFrame msg now).2.2 = { n with
      port := port
      enumStartTime := if msg.rtr then now else n.enumStartTime } := by
  unfold answerFrame
  split_ifs with hrtr
  · obtain ⟨port, es, hm, -⟩ :=
      n.replies_sendMessage { msg with len := 0 } false false defaultPriority
    exact ⟨port, congrArg (fun k : CBUSbase => { k with enumStartTime := now }) hm⟩
  all_goals exact ⟨n.port, rfl⟩

/-- The receive interrupt changes the state of the enumeration and what is sent. -/
theorem checkIncomingFrame_frame {n : CBUSbase} {msg : CANFrame} {now : UInt32}
    {r : Bool × CANFrame × CBUSbase} (h : n.checkIncomingFrame msg now = some r) :
    ∃ port enumResponses enumStartTime bEnumerationRequired bResultRequired, r.2.2 = { n with
      port := port
      enumResponses := enumResponses
      enumStartTime := enumStartTime
      bEnumerationRequired := bEnumerationRequired
      bResultRequired := bResultRequired } := by
  obtain ⟨m, hm, rfl⟩ := Option.map_eq_some_iff.mp h
  obtain ⟨port, hanswer⟩ := m.answerFrame_frame msg now
  rw [hanswer]
  unfold recordFrame at hm
  split_ifs at hm
  · cases hm
    exact ⟨_, _, _, _, _, rfl⟩
  · cases hm
    unfold doEnum
    dsimp only
    split_ifs <;> exact ⟨_, _, _, _, _, rfl⟩
  · cases hm
    exact ⟨_, _, _, _, _, rfl⟩

theorem answerFrame_enum (n : CBUSbase) (msg : CANFrame) (now : UInt32) :
    (n.answerFrame msg now).2.2.enumResponses = n.enumResponses ∧
      (n.answerFrame msg now).2.2.bEnumerationInProgress = n.bEnumerationInProgress := by
  obtain ⟨port, h⟩ := n.answerFrame_frame msg now
  simp [h]

theorem answerFrame_request (n : CBUSbase) (msg : CANFrame) (now : UInt32) :
    (n.answerFrame msg now).2.2.bEnumerationRequired = n.bEnumerationRequired ∧
      (n.answerFrame msg now).2.2.enumStartTime = if msg.rtr then now else n.enumStartTime := by
  obtain ⟨port, h⟩ := n.answerFrame_frame msg now
  simp [h]

theorem checkIncomingFrame_inProgress {n : CBUSbase} (hp : n.bEnumerationInProgress = true)
    (msg : CANFrame) (now : UInt32) (h : msg.id.toNat < 256) :
    ∃ r, n.checkIncomingFrame msg now = some r ∧ r.2.2.bEnumerationInProgress = true ∧
      ∀ k, mem r.2.2.enumResponses k =
        (mem n.enumResponses k || decide (k = 8 * (msg.id.toNat / 16) + msg.id.toNat % 8)) := by
  have hi : msg.id.toNat / 16 < 16 := by omega
  let m := { n with
    enumResponses := insertAt n.enumResponses (msg.id.toNat / 16) (msg.id.toNat % 8) hi }
  have hrec : n.recordFrame msg now = some m := by
    rw [recordFrame, if_pos hp, dif_pos hi]
  obtain ⟨hresp, hprog⟩ := m.answerFrame_enum msg now
  refine ⟨m.answerFrame msg now, ?_, ?_, ?_⟩
  · rw [checkIncomingFrame, hrec, Option.map_some]
  · rw [hprog]
    exact hp
  · intro k
    rw [hresp]
    exact mem_insertAt n.enumResponses hi (by omega) k

theorem checkIncomingFrame_outside {n : CBUSbase} (hp : n.bEnumerationInProgress = true)
    (msg : CANFrame) (now : UInt32) (h : 256 ≤ msg.id.toNat) :
    n.checkIncomingFrame msg now = none := by
  have hrec : n.recordFrame msg now = none := by
    rw [recordFrame, if_pos hp, dif_neg (by omega)]
  rw [checkIncomingFrame, hrec, Option.map_none]

theorem checkFrames_append (n : CBUSbase) (es fs : List (CANFrame × UInt32)) :
    n.checkFrames (es ++ fs) = (n.checkFrames es).bind (·.checkFrames fs) := by
  induction es generalizing n with
  | nil => rfl
  | cons e es ih =>
    obtain ⟨msg, now⟩ := e
    simp only [List.cons_append, checkFrames, Option.bind_assoc, ih]

theorem checkFrames_singleton (n : CBUSbase) (f : CANFrame × UInt32) :
    n.checkFrames [f] = (n.checkIncomingFrame f.1 f.2).map (·.2.2) := by
  obtain ⟨msg, now⟩ := f
  simp only [checkFrames, Option.map_eq_bind]
  rfl

/-- The identifiers whose byte and bit index are those of their CAN ID. -/
def WellPlaced (msg : CANFrame) : Prop :=
  msg.id.toNat < 8 ∨ 248 ≤ msg.id.toNat ∧ msg.id.toNat < 256

instance : DecidablePred WellPlaced := fun msg =>
  inferInstanceAs (Decidable (msg.id.toNat < 8 ∨ 248 ≤ msg.id.toNat ∧ msg.id.toNat < 256))

theorem wellPlaced_index {msg : CANFrame} (h : WellPlaced msg) :
    8 * (msg.id.toNat / 16) + msg.id.toNat % 8 = senderId msg := by
  unfold senderId
  rcases h with h | ⟨h1, h2⟩ <;> omega

theorem startEnumeration_state (n : CBUSbase) (now : UInt32) :
    (n.startEnumeration now).enumResponses = (Vector.replicate 16 0).set 0 1 ∧
      (n.startEnumeration now).bEnumerationInProgress = true := by
  let m := { n with
    enumResponses := (Vector.replicate 16 0).set 0 1
    bEnumerationInProgress := true
    bEnumerationRequired := true
    enumStartTime := now }
  obtain ⟨p, es, hm, -⟩ := m.replies_sendMessage {} true false defaultPriority
  exact ⟨congrArg (·.enumResponses) hm, congrArg (·.bEnumerationInProgress) hm⟩

theorem mem_startTable : ∀ k < 128,
    mem ((Vector.replicate 16 (0 : UInt8)).set 0 1) k = decide (k = 0) := by
  decide +kernel

theorem startEnumeration_marks (n : CBUSbase) (now : UInt32) :
    (n.startEnumeration now).Marks [] := by
  intro k hk
  rw [(n.startEnumeration_state now).1]
  rw [mem_startTable k hk]
  simp

theorem checkFrames_wellPlaced {n : CBUSbase} (hp : n.bEnumerationInProgress = true)
    (hn : n.Marks []) (frames : List (CANFrame × UInt32))
    (h : ∀ f ∈ frames, WellPlaced f.1) :
    ∃ m, n.checkFrames frames = some m ∧ m.bEnumerationInProgress = true ∧ m.Marks frames := by
  induction frames using List.reverseRecOn with
  | nil => exact ⟨n, rfl, hp, hn⟩
  | append_singleton frames f ih =>
    obtain ⟨m, hm, hmp, hmarks⟩ := ih fun g hg => h g (List.mem_append_left _ hg)
    have hf : WellPlaced f.1 := h f (List.mem_append_right _ (List.mem_singleton_self f))
    have hlt : f.1.id.toNat < 256 := by
      rcases hf with hf | hf <;> omega
    obtain ⟨r, hr, hrp, hmem⟩ := checkIncomingFrame_inProgress hmp f.1 f.2 hlt
    refine ⟨r.2.2, ?_, hrp, ?_⟩
    · rw [checkFrames_append, hm, Option.bind_some, checkFrames_singleton, hr, Option.map_some]
    · intro k hk
      rw [hmem k, wellPlaced_index hf, Bool.or_eq_true, hmarks k hk, decide_eq_true_eq]
      constructor
      · rintro ((rfl | ⟨g, hg, rfl⟩) | rfl)
        · exact Or.inl rfl
        · exact Or.inr ⟨g, List.mem_append_left _ hg, rfl⟩
        · exact Or.inr ⟨f, List.mem_append_right _ (List.mem_singleton_self f), rfl⟩
      · rintro (rfl | ⟨g, hg, rfl⟩)
        · exact Or.inl (Or.inl rfl)
        · rcases List.mem_append.mp hg with hg | hg
          · exact Or.inl (Or.inr ⟨g, hg, rfl⟩)
          · exact Or.inr (by rw [List.mem_singleton.mp hg])

/-- A frame after well-placed ones that is not well-placed itself is recorded
outside the table or as another CAN ID. -/
theorem not_marks_of_not_wellPlaced {n m : CBUSbase} {frames : List (CANFrame × UInt32)}
    {f : CANFrame × UInt32} (hall : ∀ g ∈ frames, WellPlaced g.1) (hn : n.Marks frames)
    (hlt : f.1.id.toNat < 256)
    (hmem : ∀ k, mem m.enumResponses k =
      (mem n.enumResponses k || decide (k = 8 * (f.1.id.toNat / 16) + f.1.id.toNat % 8)))
    (hm : m.Marks (frames ++ [f])) : WellPlaced f.1 := by
  -- the IDs of well-placed frames are 0 to 7 and 120 to 127
  have hold : ∀ k < 128, mem n.enumResponses k = true → k < 8 ∨ 120 ≤ k := by
    intro k hk h
    rcases (hn k hk).mp h with rfl | ⟨g, hg, rfl⟩
    · omega
    · unfold senderId
      rcases hall g hg with h' | h' <;> omega
  have hr : senderId f.1 < 128 := Nat.mod_lt _ (by decide)
  have hset : mem m.enumResponses (senderId f.1) = true :=
    (hm _ hr).mpr (Or.inr ⟨f, List.mem_append_right _ (List.mem_singleton_self f), rfl⟩)
  have hk : 8 * (f.1.id.toNat / 16) + f.1.id.toNat % 8 < 128 := by omega
  have hbit : mem m.enumResponses (8 * (f.1.id.toNat / 16) + f.1.id.toNat % 8) = true := by
    rw [hmem, decide_eq_true rfl, Bool.or_true]
  rw [hmem, Bool.or_eq_true, decide_eq_true_eq] at hset
  unfold WellPlaced
  rcases (hm _ hk).mp hbit with hz | ⟨g, hg, he⟩
  · rcases hset with hset | hset
    · have := hold _ hr hset
      unfold senderId at this
      omega
    · unfold senderId at hset
      omega
  · rcases List.mem_append.mp hg with hg | hg
    · have hgood := hall g hg
      unfold WellPlaced at hgood
      rcases hset with hset | hset
      · have := hold _ hr hset
        unfold senderId at this he
        omega
      · unfold senderId at hset
        omega
    · rw [List.mem_singleton.mp hg] at he
      unfold senderId at he
      omega

theorem searchCanId_spec {responses : Vector UInt8 16} {newCanId : UInt8}
    (h : searchCanId responses = some newCanId) :
    newCanId.toNat < 128 ∧ mem responses newCanId.toNat = false := by
  obtain ⟨i, hfind, hscan⟩ := Option.map_eq_some_iff.mp h
  have hi : i < 16 := List.mem_range.mp (List.mem_of_find?_eq_some hfind)
  have hne : (responses[i]?).getD 0 ≠ 0xFF := by
    simpa using List.find?_some hfind
  obtain ⟨j, hj, hclear⟩ := exists_clear hne
  obtain ⟨k, hk, hbit, hval⟩ := scanFree_spec hclear (UInt8.ofNat (i * 8))
  have hid : newCanId.toNat = 8 * i + k := by
    rw [← hscan, hval, UInt8.toNat_add, UInt8.toNat_ofNat', UInt8.toNat_ofNat']
    omega
  refine ⟨by omega, ?_⟩
  unfold mem
  rw [hid, show (8 * i + k) / 8 = i by omega, show (8 * i + k) % 8 = k by omega]
  exact hbit

theorem setCANID_canId (c : CBUSConfig) {canid : UInt8} (h : 1 ≤ canid ∧ canid ≤ 99) :
    (c.setCANID canid).2.canId = canid := congrArg (·.1) (c.setCANID_identityRam h)

theorem processEnumeration_assigns {n : CBUSbase} {now : UInt32} (h : n.Concludes now)
    {newCanId : UInt8} (hs : searchCanId n.enumResponses = some newCanId)
    (hv : 1 ≤ newCanId ∧ newCanId ≤ 99) :
    (n.processEnumeration now).moduleConfig.canId = newCanId := by
  have hset := setCANID_canId n.moduleConfig hv
  have hconc : n.processEnumeration now = n.concludeEnumeration :=
    (if_neg h.1).trans (if_pos h.2)
  rw [hconc]
  unfold concludeEnumeration
  rw [hs]
  dsimp only
  rw [if_pos hv]
  split_ifs
  · rw [(replies_sendOpcMyNN _ _ _ _ _ _ _ _).moduleConfig]
    exact hset
  · exact hset

theorem recorded_of_wellPlaced {n : CBUSbase} (hp : n.bEnumerationInProgress = true)
    (hn : n.Marks []) {frames : List (CANFrame × UInt32)} (h : ∀ f ∈ frames, WellPlaced f.1) :
    n.Recorded frames := by
  obtain ⟨m, hm, -, hmarks⟩ := checkFrames_wellPlaced hp hn frames h
  refine ⟨m, hm, hmarks, ?_⟩
  intro now newCanId hc hs h1 h99
  refine ⟨processEnumeration_assigns hc hs ⟨h1, h99⟩, ?_⟩
  intro f hf he
  obtain ⟨hlt, hfree⟩ := searchCanId_spec hs
  have hmark := (hmarks _ hlt).mpr (Or.inr ⟨f, hf, he.symm⟩)
  rw [hfree] at hmark
  exact Bool.false_ne_true hmark

/-- In every window of an enumeration: all frames received so far are recorded
exactly, and no conclusion picks an ID that answered, as long as every
identifier received is in 0 to 7 or 248 to 255, and no longer. -/
theorem recorded_iff_wellPlaced (n : CBUSbase) (now : UInt32) (hs : n.Starts now)
    (frames : List (CANFrame × UInt32)) :
    (∀ ps, ps <+: frames → (n.processEnumeration now).Recorded ps) ↔
      ∀ f ∈ frames, WellPlaced f.1 := by
  have hstart : n.processEnumeration now = n.startEnumeration now := if_pos hs
  rw [hstart]
  have hp := (n.startEnumeration_state now).2
  have hn := n.startEnumeration_marks now
  constructor
  · intro h
    induction frames using List.reverseRecOn with
    | nil => exact fun f hf => absurd hf List.not_mem_nil
    | append_singleton frames f ih =>
      have hall := ih fun ps hps => h ps (hps.trans (List.prefix_append _ _))
      obtain ⟨m, hm, hmp, hmarks⟩ := checkFrames_wellPlaced hp hn frames hall
      obtain ⟨k, hk, hkmarks, -⟩ := h (frames ++ [f]) List.prefix_rfl
      rw [checkFrames_append, hm, Option.bind_some, checkFrames_singleton] at hk
      intro g hg
      rcases List.mem_append.mp hg with hg | hg
      · exact hall g hg
      · rw [List.mem_singleton.mp hg]
        by_cases hlt : f.1.id.toNat < 256
        · obtain ⟨r, hr, -, hmem⟩ := checkIncomingFrame_inProgress hmp f.1 f.2 hlt
          rw [hr, Option.map_some, Option.some.injEq] at hk
          subst hk
          exact not_marks_of_not_wellPlaced hall hmarks hlt hmem hkmarks
        · rw [checkIncomingFrame_outside hmp f.1 f.2 (by omega)] at hk
          simp at hk
  · intro h ps hps
    exact recorded_of_wellPlaced hp hn fun f hf => h f (hps.subset hf)

def smallRequested : CBUSbase := { smallModule with bEnumerationRequired := true }

/-- A frame of another module, answering with a header of its own. -/
def responseFrame (canId priority : UInt8) : CANFrame :=
  makeHeaderImpl { len := 1 } canId priority

theorem recorded_iff_smallRequested :
    (∀ ps, ps <+: [(responseFrame 3 0, 310)] →
      (smallRequested.processEnumeration 300).Recorded ps) ↔
      ∀ f ∈ [(responseFrame 3 0, (310 : UInt32))], WellPlaced f.1 :=
  recorded_iff_wellPlaced smallRequested 300 ⟨rfl, by decide⟩ [(responseFrame 3 0, 310)]

/-- One frame with the default priority is recorded outside the table. -/
theorem not_recorded_defaultPriority :
    smallRequested.Starts 300 ∧
      ¬ (smallRequested.processEnumeration 300).Recorded
        [(responseFrame 9 defaultPriority, 310)] := by
  refine ⟨⟨rfl, by decide⟩, ?_⟩
  rintro ⟨m, hm, -⟩
  have hstart : smallRequested.processEnumeration 300 = smallRequested.startEnumeration 300 :=
    if_pos ⟨rfl, by decide⟩
  have hp := (smallRequested.startEnumeration_state 300).2
  rw [hstart, checkFrames_singleton,
    checkIncomingFrame_outside hp _ _ (by decide +kernel)] at hm
  simp at hm

end CBUSbase
end CBUSPicoLib
