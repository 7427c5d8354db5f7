import CBUSPicoLib.Node.NodeVariables

/-!
# Reading the parameter block

A parameter is read one by one with `RQNPN`, the first seven together with `RQNP` in setup
mode, and three of them with `QNN`. `RQNP` puts the number of event variables where the
number of events belongs.
-/

namespace CBUSPicoLib

/-- The number of events, which `CBUSParams` sets and no reply reads by this name. -/
def parEvtnum : ℕ := 4
def parCpuid : ℕ := 9
def parBustype : ℕ := 10
def parCpumid : ℕ := 15
def parCpuman : ℕ := 19

def numParams : UInt8 := 20
def manuMerg : UInt8 := 165
def pbCan : UInt8 := 1
def cpumArm : UInt8 := 3

/-- The parameter block as the constructor of `CBUSParams` leaves it. -/
def constructParams (config : Layout) : Vector UInt8 21 :=
  Vector.replicate 21 0
    |>.set! parNparams numParams
    |>.set! parManu manuMerg
    |>.set! parEvtnum config.eeMaxEvents
    |>.set! parEvnum config.eeNumEvs
    |>.set! parNvnum config.eeNumNvs
    |>.set! parBustype pbCan
    |>.set! parCpuid 50
    |>.set! parCpuman cpumArm
    |>.set! (parCpumid + 0) 50
    |>.set! (parCpumid + 1) 48
    |>.set! (parCpumid + 2) 52
    |>.set! (parCpumid + 3) 48

namespace CBUSbase

/-- A request for the parameter of this index, addressed to the module. -/
structure AsksParameter (n : CBUSbase) (msg : CANFrame) (index : UInt8) : Prop where
  this : n.isThisNN msg = true
  opc : msg.data.get 0 = opcRqnpn
  index : msg.data.get 3 = index

/-- `RQNPN` returns this value for the index. -/
def Returns (n : CBUSbase) (index value : UInt8) : Prop :=
  ∀ msg, n.AsksParameter msg index → n.Answers (n.receiveMsg msg) opcParan [index, value]

/-- All parameter queries tell the same story. -/
structure QueriesAgree (n : CBUSbase) : Prop where
  params : n.flimState = .fsFLiMSetup → ∀ msg, msg.data.get 0 = opcRqnp →
    ∃ f, n.answer (n.receiveMsg msg) = some f ∧ f.len = 8 ∧ f.data.get 0 = opcParams ∧
      ∀ i : Fin 8, i ≠ 0 → n.Returns (UInt8.ofNat i) (f.data.get i)
  nodeQuery : ∀ msg, msg.data.get 0 = opcQnn →
    ∃ manu mtyp flags, n.Answers (n.receiveMsg msg) opcPnn [manu, mtyp, flags] ∧
      n.Returns (UInt8.ofNat parManu) manu ∧ n.Returns (UInt8.ofNat parMtyp) mtyp ∧
      n.Returns (UInt8.ofNat parFlags) flags

variable {n : CBUSbase} {msg : CANFrame}

theorem receiveMsg_rqnpn (hthis : n.isThisNN msg = true) (hopc : msg.data.get 0 = opcRqnpn) :
    n.receiveMsg msg = ({ n with bThisNN := true }.cacheNumbers msg).doRqnpn (msg.data.get 3) := by
  apply receiveMsg_thisNN hthis
  · unfold isEvent
    rw [hopc]
    decide
  · intro k
    simp [learnCmd, hopc, opcRqnpn, opcNnlrn, opcNnuln, opcNnclr, opcEvuln, opcEvlrn, opcEvlrni,
      opcReqev]
  · simp [thisNNCmd, hopc]

/-- A command that carries no node number reaches the last two switches. -/
theorem receiveMsg_unaddressed (hevent : isEvent msg = false) (hshort : msg.data.get 0 >>> 5 < 2)
    (hpass : ∀ k : CBUSbase, k.learnCmd msg = (false, k)) :
    n.receiveMsg msg = (tryCmd (·.flimState = .fsFLiMSetup) (·.setupCmd msg)
      (tryCmd (fun _ => true) (·.anyNNCmd msg)
        (false, { n with bThisNN := false }.cacheNumbers msg))).2 := by
  have hthis : n.isThisNN msg = false := by
    have hnot : ¬ (2 : UInt8) ≤ msg.data.get 0 >>> 5 := UInt8.not_le.mpr hshort
    simp [isThisNN, hnot]
  let k := { n with bThisNN := false }.cacheNumbers msg
  have haddressed : tryCmd (·.bThisNN) (·.thisNNCmd msg) (false, k) = (false, k) := by
    simp [tryCmd, k, cacheNumbers]
  rw [receiveMsg_command hevent, hthis]
  unfold parseFLiMCmd
  rw [tryCmd_pass (hpass _), haddressed]

theorem receiveMsg_qnn (hopc : msg.data.get 0 = opcQnn) :
    n.receiveMsg msg = ({ n with bThisNN := false }.cacheNumbers msg).qnnRespond := by
  rw [receiveMsg_unaddressed, tryCmd_open rfl]
  · simp [anyNNCmd, tryCmd, hopc]
  · unfold isEvent
    rw [hopc]
    decide
  · rw [hopc]
    decide
  · intro k
    simp [learnCmd, hopc, opcQnn, opcNnlrn, opcNnuln, opcNnclr, opcEvuln, opcEvlrn, opcEvlrni,
      opcReqev]

theorem receiveMsg_rqnp (hopc : msg.data.get 0 = opcRqnp) (hsetup : n.flimState = .fsFLiMSetup) :
    n.receiveMsg msg = ({ n with bThisNN := false }.cacheNumbers msg).doRqnp := by
  rw [receiveMsg_unaddressed, tryCmd_pass, tryCmd_open]
  · simp [setupCmd, hopc]
  · exact decide_eq_true hsetup
  · simp [anyNNCmd, hopc, opcRqnp, opcQnn]
  · unfold isEvent
    rw [hopc]
    decide
  · rw [hopc]
    decide
  · intro k
    simp [learnCmd, hopc, opcRqnp, opcNnlrn, opcNnuln, opcNnclr, opcEvuln, opcEvlrn, opcEvlrni,
      opcReqev]

theorem sendsNothing_cached (n : CBUSbase) (bThisNN : Bool) (msg : CANFrame) :
    n.SendsNothing ({ n with bThisNN := bThisNN }.cacheNumbers msg) := SendsNothing.of_trace rfl

def parameterValue (n : CBUSbase) (index : UInt8) : UInt8 :=
  if index.toNat = parFlags then n.getParFlags else n.param index.toNat

theorem returns_parameterValue {index : UInt8} (h : index ≤ n.param parNparams) :
    n.Returns index (n.parameterValue index) := by
  rintro msg ⟨hthis, hopc, rfl⟩
  let k := { n with bThisNN := true }.cacheNumbers msg
  have hk : k.doRqnpn (msg.data.get 3) =
      k.sendOpcMyNN opcParan 2 (msg.data.get 3) (n.parameterValue (msg.data.get 3)) := if_pos h
  rw [receiveMsg_rqnpn hthis hopc, hk]
  exact answers_sendOpcMyNN (n.sendsNothing_cached true msg) opcParan (by decide) _ _ 0 0 0

theorem AsksParameter.nodeNum_lt {index : UInt8} (h : n.AsksParameter msg index) :
    n.moduleConfig.nodeNum < 0x10000 := by
  obtain ⟨-, hnode⟩ := of_decide_eq_true h.this
  rw [← hnode, UInt32.lt_iff_toNat_lt, UInt16.toNat_toUInt32]
  exact UInt16.toNat_lt _

/-- The request for a parameter, which exists as the node number has two bytes. -/
def rqnpnFrame (n : CBUSbase) (index : UInt8) : CANFrame :=
  let nodeNum := n.moduleConfig.nodeNum.toNat
  { len := 4, data := #v[opcRqnpn, highByte nodeNum, lowByte nodeNum, index, 0, 0, 0, 0] }

theorem asksParameter_rqnpnFrame (h : n.moduleConfig.nodeNum < 0x10000) (index : UInt8) :
    n.AsksParameter (n.rqnpnFrame index) index := by
  constructor
  · have hlt : n.moduleConfig.nodeNum.toNat < 65536 := UInt32.lt_iff_toNat_lt.mp h
    have hnode : (bytesToWord (highByte n.moduleConfig.nodeNum.toNat)
        (lowByte n.moduleConfig.nodeNum.toNat)).toUInt32 = n.moduleConfig.nodeNum := by
      rw [highLow_nodeNum]
      apply UInt32.toNat_inj.mp
      rw [UInt16.toNat_toUInt32, UInt16.toNat_ofNat']
      omega
    have hopc : (2 : UInt8) ≤ opcRqnpn >>> 5 := by decide
    exact decide_eq_true ⟨hopc, hnode⟩
  · rfl
  · rfl

theorem Returns.unique (h : n.moduleConfig.nodeNum < 0x10000) {index v w : UInt8}
    (hv : n.Returns index v) (hw : n.Returns index w) : v = w := by
  have hasks := asksParameter_rqnpnFrame h index
  have hbytes := ((hv _ hasks).unique (hw _ hasks)).2
  simpa using hbytes

/-- The seven bytes of `PARAMS` behind the opcode. -/
def paramsByte (n : CBUSbase) (i : Fin 8) : UInt8 :=
  if i.val = parEvtnum then n.param parEvnum else n.param i.val

theorem paramsByte_eq (h : n.param parEvtnum = n.param parEvnum) (i : Fin 8) :
    n.paramsByte i = n.parameterValue (UInt8.ofNat i) := by
  have hi : (UInt8.ofNat i.val).toNat = i.val :=
    UInt8.toNat_ofNat_of_lt (Nat.lt_of_lt_of_le i.isLt (by decide))
  have hflags : ¬ i.val = parFlags := Nat.ne_of_lt i.isLt
  unfold parameterValue
  rw [hi, if_neg hflags]
  unfold paramsByte
  split_ifs with he
  · rw [he, h]
  · rfl

/-- The parameters of `PARAMS` are in order, but for that of the number of events. -/
theorem answer_rqnp (hopc : msg.data.get 0 = opcRqnp) (hsetup : n.flimState = .fsFLiMSetup) :
    ∃ f, n.answer (n.receiveMsg msg) = some f ∧ f.len = 8 ∧ f.data.get 0 = opcParams ∧
      ∀ i : Fin 8, i ≠ 0 → f.data.get i = n.paramsByte i := by
  rw [receiveMsg_rqnp hopc hsetup]
  refine ⟨_, answer_sendMessage (n.sendsNothing_cached false msg) _ _ _ _, rfl, rfl, ?_⟩
  intro i hi
  fin_cases i
  · exact absurd rfl hi
  all_goals rfl

theorem answers_qnn (hopc : msg.data.get 0 = opcQnn) :
    n.Answers (n.receiveMsg msg) opcPnn
      [n.param parManu, n.param parMtyp, n.getParFlags] := by
  rw [receiveMsg_qnn hopc]
  exact answers_sendOpcMyNN (n.sendsNothing_cached false msg) opcPnn (by decide) _ _ _ 0 0

/-- In setup mode the number of events is reported as the number of event variables. -/
theorem QueriesAgree.evtnum (h : n.QueriesAgree) (hcount : n.param parNparams = 20)
    (hsetup : n.flimState = .fsFLiMSetup) (hnode : n.moduleConfig.nodeNum < 0x10000) :
    n.param parEvtnum = n.param parEvnum := by
  let msg : CANFrame := { len := 1, data := #v[opcRqnp, 0, 0, 0, 0, 0, 0, 0] }
  obtain ⟨f, hf, -, -, hvalues⟩ := h.params hsetup msg rfl
  obtain ⟨g, hg, -, -, hbytes⟩ := @answer_rqnp n msg rfl hsetup
  cases hf.symm.trans hg
  have hevents : n.Returns 4 (n.param parEvtnum) :=
    returns_parameterValue (by rw [hcount]; decide)
  have hsame := hevents.unique hnode (hvalues 4 (by decide))
  rwa [hbytes 4 (by decide)] at hsame

/-- The seven values of `PARAMS` are what `RQNPN` returns unless the one for the number of
events, which is the number of event variables, differs from the parameter. -/
theorem queriesAgree_iff (n : CBUSbase) (hcount : n.param parNparams = 20) :
    n.QueriesAgree ↔
      (n.flimState = .fsFLiMSetup → n.moduleConfig.nodeNum < 0x10000 →
        n.param parEvtnum = n.param parEvnum) := by
  have hreturns : ∀ i : UInt8, i ≤ 20 → n.Returns i (n.parameterValue i) := by
    intro i hi
    exact returns_parameterValue (by rwa [hcount])
  constructor
  · exact fun h hsetup hnode => h.evtnum hcount hsetup hnode
  · intro h
    constructor
    · intro hsetup msg hopc
      obtain ⟨f, hf, hlen, hopcode, hbytes⟩ := answer_rqnp hopc hsetup
      refine ⟨f, hf, hlen, hopcode, ?_⟩
      intro i hi q hq
      have hle : ∀ j : Fin 8, UInt8.ofNat j.val ≤ 20 := by decide
      rw [hbytes i hi, paramsByte_eq (h hsetup hq.nodeNum_lt)]
      exact hreturns _ (hle i) q hq
    · intro msg hopc
      exact ⟨_, _, _, answers_qnn hopc, hreturns _ (by decide), hreturns _ (by decide),
        hreturns _ (by decide)⟩

def setupModule : CBUSbase :=
  let moduleParams := constructParams CBUSConfig.smallLayout
  { smallModule with flimState := .fsFLiMSetup, moduleParams := moduleParams }

theorem queriesAgree_iff_setupModule :
    setupModule.QueriesAgree ↔
      (setupModule.flimState = .fsFLiMSetup → setupModule.moduleConfig.nodeNum < 0x10000 →
        setupModule.param parEvtnum = setupModule.param parEvnum) :=
  queriesAgree_iff setupModule (by decide)

/-- Three events with one variable each are reported as one event. -/
theorem not_queriesAgree_setupModule :
    setupModule.param parNparams = 20 ∧ ¬ setupModule.QueriesAgree := by
  have hnode : setupModule.moduleConfig.nodeNum < 0x10000 := by decide +kernel
  have hcount : setupModule.param parNparams = 20 := by decide
  refine ⟨hcount, fun h => ?_⟩
  have hsame := h.evtnum hcount rfl hnode
  exact absurd hsame (by decide)

end CBUSbase
end CBUSPicoLib
