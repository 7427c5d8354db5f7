import CBUSPicoLib.Node.Answers
import CBUSPicoLib.Node.Authority

/-!
# Setting and reading node variables

`NVRD` checks its index, `NVSET` compares a truth value with the number of variables. An
index that `NVRD` accepts is set as it should be; any other is written to a byte outside
the node variables, unless the application rejects the value.
-/

namespace CBUSPicoLib

namespace CBUSConfig

variable {c : CBUSConfig}

/-- The indexes that `NVRD` accepts. -/
def ValidIndex (c : CBUSConfig) (idx : UInt8) : Prop := idx ≠ 0 ∧ idx ≤ c.eeNumNvs

/-- The byte of a node variable, addressed as `readNV` and `writeNV` do. -/
def nvByte (c : CBUSConfig) (idx : UInt8) : ℕ := (c.eeNvsStart + (idx.toUInt32 - 1)).toNat

theorem ValidIndex.bounds {idx : UInt8} (h : c.ValidIndex idx) :
    0 < idx.toNat ∧ idx.toNat ≤ c.eeNumNvs.toNat :=
  ⟨Nat.pos_of_ne_zero fun hz => h.1 (UInt8.toNat_inj.mp hz), UInt8.le_iff_toNat_le.mp h.2⟩

/-- In a layout that fits the address computation of a valid index does not wrap. -/
theorem ValidIndex.address {idx : UInt8} (h : c.ValidIndex idx) (hp : c.Placed) :
    c.nvByte idx = c.eeNvsStart.toNat + (idx.toNat - 1) ∧ c.nvByte idx < flashSectorSize := by
  obtain ⟨hpos, hle⟩ := h.bounds
  have hidx : UInt8.ofNat (idx.toNat - 1 + 1) = idx := by
    rw [Nat.sub_add_cancel hpos, UInt8.ofNat_toNat]
  have haddr := writeNV_toNat hp (by omega : idx.toNat - 1 < c.eeNumNvs.toNat)
  rw [hidx] at haddr
  refine ⟨haddr.1, ?_⟩
  rw [nvByte, haddr.1]
  exact haddr.2

theorem nvByte_inj {idx j : UInt8} (he : c.nvByte idx = c.nvByte j) : idx = j := by
  have haddr : c.eeNvsStart + (idx.toUInt32 - 1) = c.eeNvsStart + (j.toUInt32 - 1) :=
    UInt32.toNat_inj.mp he
  have hsame : idx.toUInt32 - 1 = j.toUInt32 - 1 := (UInt32.add_right_inj c.eeNvsStart).mp haddr
  exact UInt8.toUInt32_inj.mp ((UInt32.sub_left_inj 1).mp hsame)

theorem readNV_nvByte (c : CBUSConfig) (idx : UInt8) :
    c.readNV idx = c.flashBuf.read 0xFF (c.nvByte idx) := rfl

theorem nvByte_congr {c c' : CBUSConfig} (hl : c'.toLayout = c.toLayout) (idx : UInt8) :
    c'.nvByte idx = c.nvByte idx := by
  rw [nvByte, hl]
  rfl

/-- The variable has a byte in the sector, or the value is the one that reads beyond it give. -/
def ReadsBack (c : CBUSConfig) (idx v : UInt8) : Prop :=
  c.nvByte idx < flashSectorSize ∨ v = 0xFF

theorem read_writeNV (c : CBUSConfig) (idx v : UInt8) (a : ℕ) :
    (c.writeNV idx v).flashBuf.read 0xFF a =
      if a = c.nvByte idx ∧ a < flashSectorSize then v else c.flashBuf.read 0xFF a := by
  rw [writeNV_eq, writeEEPROM_flashBuf, Memory.read_write]
  rfl

theorem ReadsBack.read_writeNV {idx v : UInt8} (h : c.ReadsBack idx v) (a : ℕ) :
    (c.writeNV idx v).flashBuf.read 0xFF a =
      if a = c.nvByte idx then v else c.flashBuf.read 0xFF a := by
  rw [CBUSConfig.read_writeNV]
  by_cases ha : a = c.nvByte idx
  · rcases h with hlt | rfl
    · rw [if_pos ⟨ha, ha ▸ hlt⟩, if_pos ha]
    · rw [if_pos ha, ite_eq_left_iff]
      intro hout
      exact dif_neg fun hlt => hout ⟨ha, hlt⟩
  · rw [if_neg fun hc => ha hc.1, if_neg ha]

theorem ReadsBack.readNV_writeNV {idx v : UInt8} (h : c.ReadsBack idx v) (j : UInt8) :
    (c.writeNV idx v).readNV j = if j = idx then v else c.readNV j := by
  have hl : (c.writeNV idx v).toLayout = c.toLayout := congrArg Prod.fst (c.writeNV_eventRam idx v)
  rw [readNV_nvByte, nvByte_congr hl, h.read_writeNV, readNV_nvByte]
  by_cases he : j = idx
  · rw [if_pos he, if_pos (by rw [he])]
  · rw [if_neg he, if_neg fun hb => he (nvByte_inj hb)]

theorem ValidIndex.readsBack {idx : UInt8} (h : c.ValidIndex idx) (hp : c.Placed) (v : UInt8) :
    c.ReadsBack idx v := Or.inl (h.address hp).2

theorem ValidIndex.readNV_writeNV {idx j : UInt8} (h : c.ValidIndex idx) (hp : c.Placed)
    (v : UInt8) : (c.writeNV idx v).readNV j = if j = idx then v else c.readNV j :=
  (h.readsBack hp v).readNV_writeNV j

end CBUSConfig

namespace CBUSbase

theorem receiveMsg_thisNN {n m : CBUSbase} {msg : CANFrame} (hthis : n.isThisNN msg = true)
    (hevent : isEvent msg = false) (hpass : ∀ k : CBUSbase, k.learnCmd msg = (false, k))
    (hcmd : ({ n with bThisNN := true }.cacheNumbers msg).thisNNCmd msg = (true, m)) :
    n.receiveMsg msg = m := by
  rw [receiveMsg_command hevent, hthis]
  exact parseFLiMCmd_thisNN rfl hpass hcmd

theorem receiveMsg_nvset {n : CBUSbase} {msg : CANFrame} (hthis : n.isThisNN msg = true)
    (hopc : msg.data.get 0 = opcNvset) :
    n.receiveMsg msg =
      ({ n with bThisNN := true }.cacheNumbers msg).doNvset (msg.data.get 3) (msg.data.get 4) := by
  apply receiveMsg_thisNN hthis
  · unfold isEvent
    rw [hopc]
    decide
  · intro k
    simp [learnCmd, hopc, opcNvset, opcNnlrn, opcNnuln, opcNnclr, opcEvuln, opcEvlrn, opcEvlrni,
      opcReqev]
  · simp [thisNNCmd, hopc, opcNvset, opcRqnpn, opcNnlrn, opcNnevn, opcNerd, opcNenrd, opcRqevn,
      opcNvrd]

theorem receiveMsg_nvrd {n : CBUSbase} {msg : CANFrame} (hthis : n.isThisNN msg = true)
    (hopc : msg.data.get 0 = opcNvrd) :
    n.receiveMsg msg =
      ({ n with bThisNN := true }.cacheNumbers msg).doNvrd (msg.data.get 3) := by
  apply receiveMsg_thisNN hthis
  · unfold isEvent
    rw [hopc]
    decide
  · intro k
    simp [learnCmd, hopc, opcNvrd, opcNnlrn, opcNnuln, opcNnclr, opcEvuln, opcEvlrn, opcEvlrni,
      opcReqev]
  · simp [thisNNCmd, hopc, opcNvrd, opcRqnpn, opcNnlrn, opcNnevn, opcNerd, opcNenrd, opcRqevn]

/-- Flash image and cache are the same. -/
def SameImage (n m : CBUSbase) : Prop :=
  m.moduleConfig.flash = n.moduleConfig.flash ∧ m.moduleConfig.flashBuf = n.moduleConfig.flashBuf

/-- Exactly the byte of the node variable has changed, to this value. -/
def OnlyVariableWritten (n m : CBUSbase) (idx v : UInt8) : Prop :=
  ∀ a, (m.moduleConfig.flash.read 0xFF a = if a = n.moduleConfig.nvByte idx then v
      else n.moduleConfig.flash.read 0xFF a) ∧
    m.moduleConfig.flashBuf.read 0xFF a = if a = n.moduleConfig.nvByte idx then v
      else n.moduleConfig.flashBuf.read 0xFF a

/-- `NVSET` is bounded and atomic. -/
structure NvsetBounded (n : CBUSbase) (msg : CANFrame) : Prop where
  outOfRange : ¬ n.moduleConfig.ValidIndex (msg.data.get 3) →
    n.Answers (n.receiveMsg msg) opcCmderr [cmderrInvNvIdx] ∧ SameImage n (n.receiveMsg msg)
  rejected : n.moduleConfig.ValidIndex (msg.data.get 3) →
    n.validateNV (msg.data.get 3) (n.moduleConfig.readNV (msg.data.get 3)) (msg.data.get 4) = false →
    n.Answers (n.receiveMsg msg) opcCmderr [cmderrInvNvValue] ∧ SameImage n (n.receiveMsg msg)
  accepted : n.moduleConfig.ValidIndex (msg.data.get 3) →
    n.validateNV (msg.data.get 3) (n.moduleConfig.readNV (msg.data.get 3)) (msg.data.get 4) = true →
    let m := n.receiveMsg msg
    n.Answers m opcWrack [] ∧ OnlyVariableWritten n m (msg.data.get 3) (msg.data.get 4) ∧
      ∀ r : CANFrame, n.isThisNN r = true → r.data.get 0 = opcNvrd →
        (r.data.get 3 = msg.data.get 3 →
          m.Answers (m.receiveMsg r) opcNvans [msg.data.get 3, msg.data.get 4]) ∧
        (r.data.get 3 ≠ msg.data.get 3 → m.answer (m.receiveMsg r) = n.answer (n.receiveMsg r))

theorem doNvset_cases (k : CBUSbase) (idx v : UInt8) :
    (k.doNvset idx v = k.sendCMDERR cmderrInvNvIdx ∧ idx = 0 ∧ k.moduleConfig.eeNumNvs = 0) ∨
    (¬ (idx = 0 ∧ k.moduleConfig.eeNumNvs = 0) ∧
      k.doNvset idx v =
        if k.validateNV idx (k.moduleConfig.readNV idx) v then
          ({ k with moduleConfig := k.moduleConfig.writeNV idx v }.emit
            (.actUponNVchange idx (k.moduleConfig.readNV idx) v)).sendWRACK
        else k.sendCMDERR cmderrInvNvValue) := by
  have hzero : ¬ (0 : UInt8) > k.moduleConfig.eeNumNvs := fun h => absurd h (by simp)
  unfold doNvset
  by_cases hidx : idx = 0
  · rw [if_pos hidx]
    by_cases hn : k.moduleConfig.eeNumNvs = 0
    · left
      exact ⟨if_pos (by rw [hn]; decide), hidx, hn⟩
    · right
      refine ⟨fun h => hn h.2, if_neg ?_⟩
      intro hlt
      apply hn
      apply UInt8.toNat_inj.mp
      have hone := UInt8.lt_iff_toNat_lt.mp hlt
      change k.moduleConfig.eeNumNvs.toNat = 0
      change k.moduleConfig.eeNumNvs.toNat < 1 at hone
      omega
  · right
    rw [if_neg hidx]
    exact ⟨fun h => hidx h.1, if_neg hzero⟩

theorem receiveMsg_nvset_cases {n : CBUSbase} {msg : CANFrame} (hthis : n.isThisNN msg = true)
    (hopc : msg.data.get 0 = opcNvset) :
    let idx := msg.data.get 3
    let v := msg.data.get 4
    let m := n.receiveMsg msg
    (idx = 0 ∧ n.moduleConfig.eeNumNvs = 0 ∧ n.Answers m opcCmderr [cmderrInvNvIdx] ∧
      m.moduleConfig = n.moduleConfig) ∨
    (¬ (idx = 0 ∧ n.moduleConfig.eeNumNvs = 0) ∧
      n.validateNV idx (n.moduleConfig.readNV idx) v = false ∧
      n.Answers m opcCmderr [cmderrInvNvValue] ∧ m.moduleConfig = n.moduleConfig) ∨
    (¬ (idx = 0 ∧ n.moduleConfig.eeNumNvs = 0) ∧
      n.validateNV idx (n.moduleConfig.readNV idx) v = true ∧
      n.Answers m opcWrack [] ∧ m.moduleConfig = n.moduleConfig.writeNV idx v) := by
  intro idx v m
  let k := { n with bThisNN := true }.cacheNumbers msg
  have hm : m = k.doNvset idx v := receiveMsg_nvset hthis hopc
  have hsame : n.SendsNothing k := SendsNothing.of_trace rfl
  rw [hm]
  rcases k.doNvset_cases idx v with ⟨hset, hidx, hnum⟩ | ⟨hno, hset⟩
  · left
    rw [hset]
    exact ⟨hidx, hnum, answers_sendCMDERR hsame _,
      (k.replies_sendOpcMyNN _ _ _ _ _ _ _).moduleConfig⟩
  · right
    cases hval : n.validateNV idx (n.moduleConfig.readNV idx) v with
    | false =>
      left
      have hk : ¬ k.validateNV idx (k.moduleConfig.readNV idx) v = true := by
        change ¬ n.validateNV idx (n.moduleConfig.readNV idx) v = true
        rw [hval]
        exact Bool.false_ne_true
      rw [hset, if_neg hk]
      exact ⟨hno, rfl, answers_sendCMDERR hsame _,
        (k.replies_sendOpcMyNN _ _ _ _ _ _ _).moduleConfig⟩
    | true =>
      right
      have hk : k.validateNV idx (k.moduleConfig.readNV idx) v = true := hval
      rw [hset, if_pos hk]
      let w : CBUSbase := { k with moduleConfig := k.moduleConfig.writeNV idx v }
      let k' := w.emit (.actUponNVchange idx (k.moduleConfig.readNV idx) v)
      have hwritten : n.SendsNothing w := SendsNothing.of_trace rfl
      have hsilent : n.SendsNothing k' := hwritten.emit rfl
      exact ⟨hno, rfl, answers_sendWRACK hsilent,
        (k'.replies_sendOpcMyNN _ _ _ _ _ _ _).moduleConfig⟩

theorem doNvrd_valid {k : CBUSbase} {idx : UInt8} (h : k.moduleConfig.ValidIndex idx) :
    k.doNvrd idx = k.sendOpcMyNN opcNvans 2 idx (k.moduleConfig.readNV idx) := by
  apply if_neg
  rintro (hz | hlt)
  · exact h.1 hz
  · exact absurd h.2 (UInt8.not_le.mpr hlt)

theorem doNvrd_invalid {k : CBUSbase} {idx : UInt8} (h : ¬ k.moduleConfig.ValidIndex idx) :
    k.doNvrd idx = k.sendCMDERR cmderrInvNvIdx := by
  apply if_pos
  by_contra hbad
  rw [not_or] at hbad
  exact h ⟨hbad.1, UInt8.not_lt.mp hbad.2⟩

theorem answers_nvrd {n : CBUSbase} {r : CANFrame} (hthis : n.isThisNN r = true)
    (hopc : r.data.get 0 = opcNvrd) (hidx : n.moduleConfig.ValidIndex (r.data.get 3)) :
    n.Answers (n.receiveMsg r) opcNvans
      [r.data.get 3, n.moduleConfig.readNV (r.data.get 3)] := by
  let k := { n with bThisNN := true }.cacheNumbers r
  have hsame : n.SendsNothing k := SendsNothing.of_trace rfl
  have hread : k.doNvrd (r.data.get 3) = _ := doNvrd_valid hidx
  rw [receiveMsg_nvrd hthis hopc, hread]
  exact answers_sendOpcMyNN hsame opcNvans (by decide) _ _ 0 0 0

/-- The answer to `NVRD` depends on identity, number of variables and value only. -/
theorem answer_nvrd_congr {n m : CBUSbase} {r : CANFrame} (hthis : n.isThisNN r = true)
    (hthis' : m.isThisNN r = true) (hopc : r.data.get 0 = opcNvrd)
    (hcanId : m.moduleConfig.canId = n.moduleConfig.canId)
    (hnodeNum : m.moduleConfig.nodeNum = n.moduleConfig.nodeNum)
    (hnum : m.moduleConfig.eeNumNvs = n.moduleConfig.eeNumNvs)
    (hread : n.moduleConfig.ValidIndex (r.data.get 3) →
      m.moduleConfig.readNV (r.data.get 3) = n.moduleConfig.readNV (r.data.get 3)) :
    m.answer (m.receiveMsg r) = n.answer (n.receiveMsg r) := by
  rw [receiveMsg_nvrd hthis hopc, receiveMsg_nvrd hthis' hopc]
  let k := { n with bThisNN := true }.cacheNumbers r
  let k' := { m with bThisNN := true }.cacheNumbers r
  have hsame : n.SendsNothing k := SendsNothing.of_trace rfl
  have hsame' : m.SendsNothing k' := SendsNothing.of_trace rfl
  have hanswer (opc len d1 d2 : UInt8) : m.answer (k'.sendOpcMyNN opc len d1 d2) =
      n.answer (k.sendOpcMyNN opc len d1 d2) :=
    answer_sendOpcMyNN_congr hsame hsame' hcanId hnodeNum opc len d1 d2 0 0 0
  change m.answer (k'.doNvrd (r.data.get 3)) = n.answer (k.doNvrd (r.data.get 3))
  have hvalid : m.moduleConfig.ValidIndex (r.data.get 3) ↔
      n.moduleConfig.ValidIndex (r.data.get 3) := by
    unfold CBUSConfig.ValidIndex
    rw [hnum]
  by_cases h : n.moduleConfig.ValidIndex (r.data.get 3)
  · have hval : k'.moduleConfig.readNV (r.data.get 3) = k.moduleConfig.readNV (r.data.get 3) :=
      hread h
    rw [doNvrd_valid (k := k) h, doNvrd_valid (k := k') (hvalid.mpr h), hval]
    exact hanswer _ _ _ _
  · rw [doNvrd_invalid (k := k) h, doNvrd_invalid (k := k') fun h' => h (hvalid.mp h')]
    exact hanswer _ _ _ _

theorem onlyVariableWritten {n m : CBUSbase} (hs : n.moduleConfig.Settled) {idx v : UInt8}
    (hread : n.moduleConfig.ReadsBack idx v) (hm : m.moduleConfig = n.moduleConfig.writeNV idx v) :
    OnlyVariableWritten n m idx v := by
  intro a
  have hcache := hread.read_writeNV a
  rw [hm, (hs.synced.writeNV idx v).flash_eq, hs.synced.flash_eq]
  exact ⟨hcache, hcache⟩

theorem OnlyVariableWritten.readsBack {n m : CBUSbase} {idx v : UInt8}
    (h : OnlyVariableWritten n m idx v) : n.moduleConfig.ReadsBack idx v := by
  by_contra hnot
  unfold CBUSConfig.ReadsBack at hnot
  rw [not_or] at hnot
  have hbyte := (h (n.moduleConfig.nvByte idx)).2
  rw [if_pos rfl] at hbyte
  have hout : m.moduleConfig.flashBuf.read 0xFF (n.moduleConfig.nvByte idx) = 0xFF :=
    dif_neg hnot.1
  exact hnot.2 (hbyte.symm.trans hout)

theorem nvrd_after_nvset {n m : CBUSbase} {idx v : UInt8}
    (hidx : n.moduleConfig.ValidIndex idx) (hread : n.moduleConfig.ReadsBack idx v)
    (hm : m.moduleConfig = n.moduleConfig.writeNV idx v)
    {r : CANFrame} (hthis : n.isThisNN r = true) (hopc : r.data.get 0 = opcNvrd) :
    (r.data.get 3 = idx → m.Answers (m.receiveMsg r) opcNvans [idx, v]) ∧
      (r.data.get 3 ≠ idx → m.answer (m.receiveMsg r) = n.answer (n.receiveMsg r)) := by
  let c := n.moduleConfig
  have hl : m.moduleConfig.toLayout = c.toLayout := by
    rw [hm]
    exact congrArg Prod.fst (c.writeNV_eventRam idx v)
  have hid : m.moduleConfig.identityRam = c.identityRam := by
    rw [hm]
    exact c.writeNV_identityRam idx v
  have hnodeNum : m.moduleConfig.nodeNum = c.nodeNum := congrArg (·.2.2) hid
  have hcanId : m.moduleConfig.canId = c.canId := congrArg (·.1) hid
  have hnum : m.moduleConfig.eeNumNvs = c.eeNumNvs := congrArg (·.eeNumNvs) hl
  have hreadNV (j : UInt8) : m.moduleConfig.readNV j = if j = idx then v else c.readNV j := by
    rw [hm]
    exact hread.readNV_writeNV j
  have hthis' : m.isThisNN r = true := by
    rw [← hthis]
    unfold isThisNN
    rw [hnodeNum]
  constructor
  · intro hr
    have hj : m.moduleConfig.ValidIndex (r.data.get 3) := by
      unfold CBUSConfig.ValidIndex
      rw [hr, hnum]
      exact hidx
    have hans := answers_nvrd hthis' hopc hj
    rwa [hr, hreadNV idx, if_pos rfl] at hans
  · intro hr
    apply answer_nvrd_congr hthis hthis' hopc hcanId hnodeNum hnum
    intro _
    rw [hreadNV, if_neg hr]

/-- In every reachable state, for every frame, layout and validator: `NVSET` is bounded and
atomic exactly for the valid indexes whose value is rejected or reads back, and for index 0 of a
module without variables. -/
theorem nvsetBounded_iff (n : CBUSbase) (hr : n.Reachable) (msg : CANFrame)
    (hthis : n.isThisNN msg = true) (hopc : msg.data.get 0 = opcNvset) :
    n.NvsetBounded msg ↔
      (n.moduleConfig.ValidIndex (msg.data.get 3) ∧
        (n.moduleConfig.ReadsBack (msg.data.get 3) (msg.data.get 4) ∨
          n.validateNV (msg.data.get 3) (n.moduleConfig.readNV (msg.data.get 3))
            (msg.data.get 4) = false)) ∨
      (msg.data.get 3 = 0 ∧ n.moduleConfig.eeNumNvs = 0) := by
  have hcases := receiveMsg_nvset_cases hthis hopc
  dsimp only at hcases
  constructor
  · intro h
    by_cases hidx : n.moduleConfig.ValidIndex (msg.data.get 3)
    · left
      refine ⟨hidx, ?_⟩
      rcases hcases with ⟨hz, -⟩ | ⟨-, hval, -⟩ | ⟨-, hval, -⟩
      · exact absurd hz hidx.1
      · exact Or.inr hval
      · exact Or.inl (h.accepted hidx hval).2.1.readsBack
    · right
      obtain ⟨hans, -⟩ := h.outOfRange hidx
      rcases hcases with ⟨hz, hnum, -⟩ | ⟨-, -, herr, -⟩ | ⟨-, -, hack, -⟩
      · exact ⟨hz, hnum⟩
      · exact absurd (hans.unique herr).2 (by decide)
      · exact absurd (hans.unique hack).1 (by decide)
  · rintro (⟨hidx, hback⟩ | hzero)
    · have hno : ¬ (msg.data.get 3 = 0 ∧ n.moduleConfig.eeNumNvs = 0) := fun h => hidx.1 h.1
      constructor
      · exact fun hbad => absurd hidx hbad
      · intro _ hval
        rcases hcases with ⟨hz, hnum, -⟩ | ⟨-, -, herr, hconfig⟩ | ⟨-, hval', -⟩
        · exact absurd ⟨hz, hnum⟩ hno
        · exact ⟨herr, by rw [SameImage, hconfig]; exact ⟨rfl, rfl⟩⟩
        · exact absurd (hval.symm.trans hval') Bool.false_ne_true
      · intro _ hval m
        rcases hcases with ⟨hz, hnum, -⟩ | ⟨-, hval', -⟩ | ⟨-, -, hack, hconfig⟩
        · exact absurd ⟨hz, hnum⟩ hno
        · exact absurd (hval'.symm.trans hval) Bool.false_ne_true
        · have hread := hback.resolve_right (hval ▸ Bool.noConfusion)
          exact ⟨hack, onlyVariableWritten hr.settled hread hconfig, fun r hthisr hopcr =>
            nvrd_after_nvset hidx hread hconfig hthisr hopcr⟩
    · have hbad : ¬ n.moduleConfig.ValidIndex (msg.data.get 3) := fun h => h.1 hzero.1
      constructor
      · intro _
        rcases hcases with ⟨-, -, herr, hconfig⟩ | ⟨hno, -⟩ | ⟨hno, -⟩
        · exact ⟨herr, by rw [SameImage, hconfig]; exact ⟨rfl, rfl⟩⟩
        · exact absurd hzero hno
        · exact absurd hzero hno
      · exact fun hidx => absurd hidx hbad
      · exact fun hidx => absurd hidx hbad

def nvsetFrame : CANFrame := { len := 5, data := #v[opcNvset, 1, 2, 2, 7, 0, 0, 0] }

/-- Set node variable 3, which the small module does not have. -/
def nvsetPastEnd : CANFrame := { len := 5, data := #v[opcNvset, 1, 2, 3, 7, 0, 0, 0] }

theorem nvsetBounded_iff_nvsetFrame :
    smallModule.NvsetBounded nvsetFrame ↔
      (smallModule.moduleConfig.ValidIndex (nvsetFrame.data.get 3) ∧
        (smallModule.moduleConfig.ReadsBack (nvsetFrame.data.get 3) (nvsetFrame.data.get 4) ∨
          smallModule.validateNV (nvsetFrame.data.get 3)
            (smallModule.moduleConfig.readNV (nvsetFrame.data.get 3))
            (nvsetFrame.data.get 4) = false)) ∨
        (nvsetFrame.data.get 3 = 0 ∧ smallModule.moduleConfig.eeNumNvs = 0) :=
  nvsetBounded_iff smallModule smallModule_reachable nvsetFrame (by decide +kernel) (by decide)

/-- The variable behind the last one is acknowledged, and written. -/
theorem not_nvsetBounded_pastEnd :
    smallModule.Reachable ∧ smallModule.isThisNN nvsetPastEnd = true ∧
      nvsetPastEnd.data.get 0 = opcNvset ∧ ¬ smallModule.NvsetBounded nvsetPastEnd := by
  refine ⟨smallModule_reachable, by decide +kernel, by decide, fun h => ?_⟩
  have hbad : ¬ smallModule.moduleConfig.ValidIndex (nvsetPastEnd.data.get 3) := by
    unfold CBUSConfig.ValidIndex
    decide +kernel
  have hwritten : (smallModule.receiveMsg nvsetPastEnd).moduleConfig.flash.read 0xFF 12 ≠
      smallModule.moduleConfig.flash.read 0xFF 12 := by decide +kernel
  exact hwritten (by rw [(h.outOfRange hbad).2.1])

end CBUSbase
end CBUSPicoLib
