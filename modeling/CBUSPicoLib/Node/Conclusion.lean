import CBUSPicoLib.Node.Answers
import CBUSPicoLib.Node.Enumeration
import CBUSPicoLib.Node.PowerCycle

/-!
# The conclusion of an enumeration

The scan skips the bytes that are `0xFF` and shifts through the next one. Its result is the
smallest unmarked ID of the whole table; the range check then drops an ID above 99 without
the error reply that a full table gets.
-/

namespace CBUSPicoLib

open ByteBitmap

/-- The scan over the bytes of these indexes, with the indexes it reads: a byte is read once
in the loop, and the one it stops at is read again. -/
def scanBytes (responses : Vector UInt8 16) : List ℕ → Option UInt8 × List ℕ
  | [] => (none, [])
  | i :: rest =>
    let byte := (responses[i]?).getD 0
    if byte = 0xFF then
      let r := scanBytes responses rest
      (r.1, i :: r.2)
    else (some (scanFree (UInt8.ofNat (i * 8)) byte), [i, i])

theorem scanBytes_value (responses : Vector UInt8 16) (indexes : List ℕ) :
    (scanBytes responses indexes).1 =
      (indexes.find? fun i => (responses[i]?).getD 0 != 0xFF).map fun i =>
        scanFree (UInt8.ofNat (i * 8)) ((responses[i]?).getD 0) := by
  induction indexes with
  | nil => rfl
  | cons i rest ih =>
    by_cases h : (responses[i]?).getD 0 = 0xFF
    · simp [scanBytes, h, ih]
    · simp [scanBytes, h]

theorem scanBytes_reads (responses : Vector UInt8 16) (indexes : List ℕ) :
    ∀ i ∈ (scanBytes responses indexes).2, i ∈ indexes := by
  induction indexes with
  | nil => simp [scanBytes]
  | cons i rest ih =>
    intro k hk
    by_cases h : (responses[i]?).getD 0 = 0xFF
    · simp only [scanBytes, h, if_true, List.mem_cons] at hk
      rcases hk with rfl | hk
      · exact List.mem_cons_self
      · exact List.mem_cons_of_mem _ (ih k hk)
    · simp only [scanBytes, h, if_false, List.mem_cons, List.not_mem_nil, or_false, or_self] at hk
      simp [hk]

namespace CBUSbase

def searchReads (responses : Vector UInt8 16) : List ℕ := (scanBytes responses (List.range 16)).2

theorem searchCanId_eq_scanBytes (responses : Vector UInt8 16) :
    searchCanId responses = (scanBytes responses (List.range 16)).1 :=
  (scanBytes_value responses _).symm

theorem searchReads_lt (responses : Vector UInt8 16) : ∀ i ∈ searchReads responses, i < 16 := by
  intro i hi
  exact List.mem_range.mp (scanBytes_reads responses _ i hi)

theorem searchCanId_least {responses : Vector UInt8 16} {newCanId : UInt8}
    (h : searchCanId responses = some newCanId) :
    newCanId.toNat < 128 ∧ mem responses newCanId.toNat = false ∧
      ∀ j < newCanId.toNat, mem responses j = true := by
  obtain ⟨i, hfind, hscan⟩ := Option.map_eq_some_iff.mp h
  obtain ⟨hne, hi, hfull⟩ := List.find?_range_eq_some.mp hfind
  simp only [bne_iff_ne, List.mem_range, Bool.not_eq_true', bne_eq_false_iff_eq] at hne hi hfull
  obtain ⟨k, hk, hclear, hset, hval⟩ := scanFree_least hne (UInt8.ofNat (i * 8))
  have hid : newCanId.toNat = 8 * i + k := by
    rw [← hscan, hval, UInt8.toNat_add, UInt8.toNat_ofNat', UInt8.toNat_ofNat']
    omega
  rw [hid]
  refine ⟨by omega, ?_, ?_⟩
  · unfold mem
    rw [Nat.mul_add_div (by decide), Nat.mul_add_mod, Nat.div_eq_of_lt hk, Nat.mod_eq_of_lt hk]
    exact hclear
  · intro j hj
    by_cases hlow : j / 8 < i
    · exact mem_of_full (hfull _ hlow)
    · have hbyte : j / 8 = i := by omega
      unfold mem
      rw [hbyte]
      exact hset _ (by omega)

theorem searchCanId_none {responses : Vector UInt8 16} (h : searchCanId responses = none) :
    ∀ k < 128, mem responses k = true := by
  intro k hk
  have hfind := List.find?_eq_none.mp (Option.map_eq_none_iff.mp h) (k / 8)
    (List.mem_range.mpr (by omega))
  exact mem_of_full (by simpa using hfind)

/-- One call of `sendMessage` with this frame, with the forwarding and the transmission that
the call causes, and nothing else. -/
def SendsOne (n m : CBUSbase) (f : CANFrame) : Prop :=
  ∃ es, m.port.trace = n.port.trace ++ .sendMessage f :: es ∧
    ∀ e ∈ es, (∃ bMore, e = .sendCANFrame f bMore) ∨
      ∃ g, e = .transmitted g ∧ g.data = f.data ∧ g.len = f.len

/-- Exactly one reply with this opcode and these bytes if a result is required, else nothing
is sent. -/
def Reported (n m : CBUSbase) (opc : UInt8) (bytes : List UInt8) : Prop :=
  if n.bResultRequired then ∃ f, n.SendsOne m f ∧ m.Carries f opc bytes
  else m.port.trace = n.port.trace

/-- A CAN ID that may be assigned and is not marked. -/
def Free (n : CBUSbase) (k : UInt8) : Prop :=
  1 ≤ k ∧ k ≤ 99 ∧ mem n.enumResponses k.toNat = false

/-- The CAN ID is cached and stored. -/
structure CanIdStored (n m : CBUSbase) (k : UInt8) : Prop where
  cached : m.moduleConfig.canId = k
  eeprom : m.moduleConfig.readEEPROM CBUSConfig.ofsCanId = k
  flash : n.moduleConfig.Synced → m.moduleConfig.flash.read 0xFF CBUSConfig.ofsCanId.toNat = k

/-- The conclusion is correct and answered. -/
structure ConcludesRight (n m : CBUSbase) : Prop where
  assigned : (∃ k, n.Free k) → ∃ k, n.Free k ∧ (∀ j, n.Free j → k ≤ j) ∧ n.CanIdStored m k ∧
    n.Reported m opcNnack []
  unassigned : (¬ ∃ k, n.Free k) → m.moduleConfig = n.moduleConfig ∧
    n.Reported m opcCmderr [cmderrInvalidEvent]
  reads : ∀ i ∈ searchReads n.enumResponses, i < 16
  flags : m.bEnumerationRequired = false ∧ m.bEnumerationInProgress = false

theorem sendHeader_data (n : CBUSbase) (msg : CANFrame) (rtr ext : Bool) (priority : UInt8) :
    (n.sendHeader msg rtr ext priority).data = msg.data ∧
      (n.sendHeader msg rtr ext priority).len = msg.len := by
  cases rtr <;> cases ext <;> simp [sendHeader, makeHeader, makeHeaderImpl]

theorem sendsOne_sendMessage (n : CBUSbase) (msg : CANFrame) (rtr ext : Bool) (priority : UInt8) :
    n.SendsOne (n.sendMessage msg rtr ext priority).2.2 msg := by
  have hheader : ∀ m : CBUSbase, ∃ g, Effect.transmitted (m.sendHeader msg rtr ext priority) =
      .transmitted g ∧ g.data = msg.data ∧ g.len = msg.len := by
    intro m
    exact ⟨_, rfl, m.sendHeader_data msg rtr ext priority⟩
  unfold sendMessage forward
  dsimp only
  split
  · exact ⟨[], rfl, by simp⟩
  · split_ifs
    · exact ⟨[.sendCANFrame msg false], by simp [emit], by simp⟩
    · exact ⟨[], rfl, by simp⟩
  · split_ifs
    · refine ⟨[.sendCANFrame msg false, .transmitted (sendHeader _ msg rtr ext priority)],
        by simp [emit]; rfl, ?_⟩
      intro e he
      rcases List.mem_pair.mp he with rfl | rfl
      · exact Or.inl ⟨false, rfl⟩
      · exact Or.inr (hheader _)
    · refine ⟨[.transmitted (sendHeader _ msg rtr ext priority)], by simp [emit]; rfl, ?_⟩
      intro e he
      rw [List.mem_singleton.mp he]
      exact Or.inr (hheader _)

theorem SendsOne.answer {n m : CBUSbase} {f : CANFrame} (h : n.SendsOne m f) :
    n.answer m = some f := by
  obtain ⟨es, ht, -⟩ := h
  unfold CBUSbase.answer
  rw [ht, List.drop_left]
  rfl

theorem sendsOne_sendOpcMyNN (n : CBUSbase) (opc : UInt8) {dataLen : UInt8} (hlen : dataLen ≤ 5)
    (d1 d2 d3 d4 d5 : UInt8) :
    ∃ f, n.SendsOne (n.sendOpcMyNN opc dataLen d1 d2 d3 d4 d5) f ∧
      (n.sendOpcMyNN opc dataLen d1 d2 d3 d4 d5).Carries f opc
        ([d1, d2, d3, d4, d5].take dataLen.toNat) := by
  have hnothing : n.SendsNothing n := SendsNothing.of_trace rfl
  obtain ⟨f, hf, hcarries⟩ := answers_sendOpcMyNN hnothing opc hlen d1 d2 d3 d4 d5
  obtain ⟨g, hone⟩ : ∃ g, n.SendsOne (n.sendOpcMyNN opc dataLen d1 d2 d3 d4 d5) g :=
    ⟨_, n.sendsOne_sendMessage _ _ _ _⟩
  cases hf.symm.trans hone.answer
  exact ⟨f, hone, hcarries⟩

variable {n : CBUSbase}

/-- With ID 0 marked the search ends at the smallest free ID, above 99, or nowhere. -/
theorem search_cases (h0 : mem n.enumResponses 0 = true) :
    (∃ k, searchCanId n.enumResponses = some k ∧ n.Free k ∧ ∀ j, n.Free j → k ≤ j) ∨
      (∃ k, searchCanId n.enumResponses = some k ∧ 99 < k ∧ k.toNat < 128 ∧
        mem n.enumResponses k.toNat = false ∧ ¬ ∃ j, n.Free j) ∨
      (searchCanId n.enumResponses = none ∧ (¬ ∃ j, n.Free j) ∧
        ∀ k < 128, mem n.enumResponses k = true) := by
  cases hs : searchCanId n.enumResponses with
  | none =>
    have hall := searchCanId_none hs
    refine Or.inr (Or.inr ⟨rfl, ?_, hall⟩)
    rintro ⟨j, -, hhigh, hfree⟩
    have hj : j.toNat ≤ 99 := UInt8.le_iff_toNat_le.mp hhigh
    rw [hall _ (by omega)] at hfree
    exact Bool.false_ne_true hfree.symm
  | some k =>
    obtain ⟨hlt, hfree, hleast⟩ := searchCanId_least hs
    have hbelow : ∀ j, n.Free j → k ≤ j := by
      rintro j ⟨-, -, hj⟩
      by_contra hlt
      rw [hleast _ (UInt8.lt_iff_toNat_lt.mp (UInt8.not_le.mp hlt))] at hj
      exact Bool.false_ne_true hj.symm
    by_cases hhigh : k ≤ 99
    · have hpos : k ≠ 0 := by
        rintro rfl
        rw [UInt8.toNat_zero, h0] at hfree
        exact Bool.false_ne_true hfree.symm
      have hlow : 1 ≤ k := by
        rw [UInt8.le_iff_toNat_le]
        exact Nat.pos_of_ne_zero fun hz => hpos (UInt8.toNat_inj.mp hz)
      exact Or.inl ⟨k, rfl, ⟨hlow, hhigh, hfree⟩, hbelow⟩
    · refine Or.inr (Or.inl ⟨k, rfl, UInt8.not_le.mp hhigh, hlt, hfree, ?_⟩)
      rintro ⟨j, hj⟩
      exact hhigh (UInt8.le_trans (hbelow j hj) hj.2.1)

theorem canIdStored_setCANID {k : UInt8} (h : 1 ≤ k ∧ k ≤ 99) (m : CBUSbase)
    (hm : m.moduleConfig = (n.moduleConfig.setCANID k).2) : n.CanIdStored m k := by
  have hident := n.moduleConfig.setCANID_storedIdentity h
  constructor
  · rw [hm]
    exact setCANID_canId _ h
  · rw [hm]
    exact congrArg (·.1) hident
  · intro hsync
    rw [hm, (hsync.setCANID k).flash_eq]
    exact congrArg (·.1) hident

/-- Sending a reply, if one is required, after the CAN ID has or has not been set. -/
theorem reported_reply {k m : CBUSbase} (hk : k.port.trace = n.port.trace) (opc dataLen : UInt8)
    (hlen : dataLen ≤ 5) (d1 d2 d3 d4 d5 : UInt8)
    (hm : m.port.trace =
        (if n.bResultRequired then k.sendOpcMyNN opc dataLen d1 d2 d3 d4 d5 else k).port.trace ∧
      m.moduleConfig = k.moduleConfig) :
    n.Reported m opc ([d1, d2, d3, d4, d5].take dataLen.toNat) := by
  obtain ⟨htrace, hconfig⟩ := hm
  unfold Reported
  split_ifs with hr
  · rw [if_pos hr] at htrace
    obtain ⟨f, ⟨es, ht, hes⟩, hcarries⟩ := k.sendsOne_sendOpcMyNN opc hlen d1 d2 d3 d4 d5
    have hnode : m.moduleConfig = (k.sendOpcMyNN opc dataLen d1 d2 d3 d4 d5).moduleConfig :=
      hconfig.trans (k.replies_sendOpcMyNN _ _ _ _ _ _ _).moduleConfig.symm
    refine ⟨f, ⟨es, by rw [htrace, ht, hk], hes⟩, ?_⟩
    exact ⟨hcarries.opc, by rw [hnode]; exact hcarries.node, hcarries.payload, hcarries.len⟩
  · rw [if_neg hr] at htrace
    exact htrace.trans hk

theorem conclude_free {k : UInt8} (hs : searchCanId n.enumResponses = some k)
    (hk : 1 ≤ k ∧ k ≤ 99) :
    n.CanIdStored n.concludeEnumeration k ∧ n.Reported n.concludeEnumeration opcNnack [] := by
  let m := { n with moduleConfig := (n.moduleConfig.setCANID k).2 }
  have hconfig : n.concludeEnumeration.moduleConfig = m.moduleConfig := by
    unfold concludeEnumeration
    rw [hs]
    dsimp only
    rw [if_pos hk]
    split_ifs
    · exact (m.replies_sendOpcMyNN _ _ _ _ _ _ _).moduleConfig
    · rfl
  refine ⟨canIdStored_setCANID hk _ hconfig, ?_⟩
  refine @reported_reply n m _ rfl opcNnack 0 (by decide) 0 0 0 0 0 ⟨?_, hconfig⟩
  unfold concludeEnumeration
  rw [hs]
  dsimp only
  rw [if_pos hk]

theorem conclude_full (hs : searchCanId n.enumResponses = none) :
    n.concludeEnumeration.moduleConfig = n.moduleConfig ∧
      n.Reported n.concludeEnumeration opcCmderr [cmderrInvalidEvent] := by
  have hconfig : n.concludeEnumeration.moduleConfig = n.moduleConfig := by
    unfold concludeEnumeration
    rw [hs]
    dsimp only
    split_ifs
    · exact (n.replies_sendCMDERR _).moduleConfig
    · rfl
  refine ⟨hconfig, ?_⟩
  refine @reported_reply n n _ rfl opcCmderr 1 (by decide) cmderrInvalidEvent 0 0 0 0
    ⟨?_, hconfig⟩
  unfold concludeEnumeration
  rw [hs]
  rfl

theorem conclude_high {k : UInt8} (hs : searchCanId n.enumResponses = some k) (hk : 99 < k) :
    n.concludeEnumeration.moduleConfig = n.moduleConfig ∧
      n.concludeEnumeration.port.trace = n.port.trace := by
  unfold concludeEnumeration
  rw [hs]
  dsimp only
  rw [if_neg fun h => UInt8.not_le.mpr hk h.2]
  exact ⟨rfl, rfl⟩

theorem not_sendsOne_self {m : CBUSbase} (h : m.port.trace = n.port.trace) (f : CANFrame) :
    ¬ n.SendsOne m f := by
  rintro ⟨es, ht, -⟩
  rw [h] at ht
  simp at ht

theorem processEnumeration_concludes {now : UInt32} (h : n.Concludes now) :
    n.processEnumeration now = n.concludeEnumeration := (if_neg h.1).trans (if_pos h.2)

/-- Without a free ID in the range an error is required, which only a full table gives. -/
theorem ConcludesRight.full (h : n.ConcludesRight n.concludeEnumeration)
    (h0 : mem n.enumResponses 0 = true) (hrequired : n.bResultRequired = true)
    (hnone : ¬ ∃ k, n.Free k) : ∀ k < 128, mem n.enumResponses k = true := by
  rcases search_cases h0 with ⟨k, -, hfree, -⟩ | ⟨k, hs, hhigh, -⟩ | ⟨-, -, hall⟩
  · exact absurd ⟨k, hfree⟩ hnone
  · have hreported := (h.unassigned hnone).2
    unfold Reported at hreported
    rw [if_pos hrequired] at hreported
    obtain ⟨f, hf, -⟩ := hreported
    exact absurd hf (not_sendsOne_self (conclude_high hs hhigh).2 f)
  · exact hall

/-- The conclusion is correct and answered unless a result is required and only IDs above the
permitted range are free. -/
theorem concludesRight_iff (n : CBUSbase) (now : UInt32) (h : n.Concludes now)
    (h0 : mem n.enumResponses 0 = true) :
    n.ConcludesRight (n.processEnumeration now) ↔
      (n.bResultRequired = true → (¬ ∃ k, n.Free k) →
        ∀ k < 128, mem n.enumResponses k = true) := by
  rw [processEnumeration_concludes h]
  constructor
  · exact fun hright hrequired hnone => hright.full h0 hrequired hnone
  · intro hcond
    constructor
    · intro hex
      rcases search_cases h0 with ⟨k, hs, hfree, hleast⟩ | ⟨-, -, -, -, -, hnone⟩ | ⟨-, hnone, -⟩
      · obtain ⟨hstored, hreported⟩ := conclude_free hs ⟨hfree.1, hfree.2.1⟩
        exact ⟨k, hfree, hleast, hstored, hreported⟩
      · exact absurd hex hnone
      · exact absurd hex hnone
    · intro hnone
      rcases search_cases h0 with ⟨k, -, hfree, -⟩ | ⟨k, hs, hhigh, hlt, hclear, -⟩ | ⟨hs, -, -⟩
      · exact absurd ⟨k, hfree⟩ hnone
      · obtain ⟨hconfig, htrace⟩ := conclude_high hs hhigh
        refine ⟨hconfig, ?_⟩
        unfold Reported
        split_ifs with hrequired
        · rw [hcond hrequired hnone k.toNat hlt] at hclear
          exact absurd hclear (by decide)
        · exact htrace
      · exact conclude_full hs
    · exact searchReads_lt n.enumResponses
    · exact ⟨rfl, rfl⟩

/-- The module whose enumeration has gathered this table and whose result is asked for. -/
def concludingModule (responses : Vector UInt8 16) : CBUSbase := { smallModule with
  enumResponses := responses
  bEnumerationRequired := true
  bEnumerationInProgress := true
  bResultRequired := true }

def permittedFull : Vector UInt8 16 :=
  Vector.ofFn fun i => if i.val < 12 then 0xFF else if i.val = 12 then 0x0F else 0

def zeroMarked : Vector UInt8 16 := Vector.ofFn fun i => if i.val = 0 then 1 else 0

theorem concludesRight_iff_alone :
    let n := concludingModule zeroMarked
    n.ConcludesRight (n.processEnumeration 150) ↔
      (n.bResultRequired = true → (¬ ∃ k, n.Free k) →
        ∀ k < 128, mem n.enumResponses k = true) :=
  concludesRight_iff (concludingModule zeroMarked) 150
    ⟨fun hs => absurd hs.2 (by decide +kernel), by decide +kernel⟩ (by decide +kernel)

/-- No reply when 100 is the first free ID. -/
theorem not_concludesRight_permittedFull :
    (concludingModule permittedFull).Concludes 150 ∧
      mem (concludingModule permittedFull).enumResponses 0 = true ∧
      ¬ (concludingModule permittedFull).ConcludesRight
        ((concludingModule permittedFull).processEnumeration 150) := by
  have hconcludes : (concludingModule permittedFull).Concludes 150 :=
    ⟨fun hs => absurd hs.2 (by decide +kernel), by decide +kernel⟩
  have hzero : mem permittedFull 0 = true := by decide +kernel
  have hpermitted : ∀ k < 100, mem permittedFull k = true := by decide +kernel
  have hnone : ¬ ∃ k, (concludingModule permittedFull).Free k := by
    rintro ⟨k, -, hhigh, hfree⟩
    have hk : k.toNat ≤ 99 := UInt8.le_iff_toNat_le.mp hhigh
    exact absurd ((hpermitted _ (by omega)).symm.trans hfree) (by decide)
  refine ⟨hconcludes, hzero, fun h => ?_⟩
  rw [processEnumeration_concludes hconcludes] at h
  exact absurd (h.full hzero rfl hnone 100 (by decide)) (by decide +kernel)

end CBUSbase
end CBUSPicoLib
