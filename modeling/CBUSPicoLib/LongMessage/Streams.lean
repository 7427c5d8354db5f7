import CBUSPicoLib.LongMessage.Interleaving

/-!
# Messages that are copied completely

A run in which every message is copied completely, has bytes, and finds its stream and a context
free, never faults while the controller takes every frame. Each stream then carries
its messages one after the other, and its context is free when the last data packet is out.
-/

namespace CBUSPicoLib

open Runs SessionTable TaggedLog

/-- No zero before the last byte, and one that ends the message in memory: `strdup` copies all of
it. -/
def OutgoingMessage.Copied (m : OutgoingMessage) : Prop := 0 ∉ m.bytes.dropLast ∧ 0 ∈ m.mem

instance (m : OutgoingMessage) : Decidable m.Copied := inferInstanceAs (Decidable (_ ∧ _))

theorem OutgoingMessage.Copied.strdup {m : OutgoingMessage} (h : m.Copied) :
    ∃ copy, strdup m.mem = some copy ∧ m.bytes.length ≤ copy.length := strdup_complete h.1 h.2

def startedMessages (calls : List SenderCall) : List OutgoingMessage :=
  calls.filterMap fun
    | .send m => some m
    | .process _ => none

namespace CBUSLongMessageEx

variable {lm lm' first : CBUSLongMessageEx} {w w' : Watched CBUSLongMessageEx}
  {m : OutgoingMessage} {clock : Clock} {ret : Bool}

/-- A message with bytes, started on a free stream while a context is free. -/
def StartsFree (w : Watched CBUSLongMessageEx) : SenderCall → Prop
  | .send m => m.bytes ≠ [] ∧ w.object.inProgress m.streamId = false ∧
      ∃ c ∈ w.object.sendContext, c.inUse = false
  | .process _ => True

/-- The sender can go on: no context is without bytes to send, and none reads past its copy. -/
structure Serving (first : CBUSLongMessageEx) (w : Watched CBUSLongMessageEx) : Prop
    extends Accounts first w where
  safely : w.object.SendsSafely
  remaining : ∀ c ∈ w.object.sendContext, c.inUse = true → c.sendBufferIndex < c.sendBufferLen
  canReport : w.object.CanReport
  transmits : w.object.cbusObject.Transmits
  sameModule : w.object.cbusObject.moduleConfig = first.cbusObject.moduleConfig
  sameCrc : w.object.useCrc = first.useCrc

theorem Serving.takes (h : Serving first w) : w.object.cbusObject.takes = true := by
  rw [CBUSbase.takes, h.transmits 0]
  rfl

theorem Serving.reference_eq (h : Serving first w) (m : OutgoingMessage) :
    sending.reference w.object m = sending.reference first m := by
  have hcrc : sending.headerCrc w.object m = sending.headerCrc first m := by
    change (messageCrc w.object.useCrc _ _).getD 0 = (messageCrc first.useCrc _ _).getD 0
    rw [h.sameCrc]
  unfold SendingClass.reference
  rw [hcrc]
  change messageFrames (fragmentId w.object.cbusObject.moduleConfig.canId _) _ _ _ = _
  rw [h.sameModule]
  rfl

theorem Serving.send (h : Serving first w) (hfree : StartsFree w (.send m)) (hcopied : m.Copied) :
    ∃ w', sending.step w (.send m) = some w' ∧ Serving first w' ∧
      w'.accepted = w.accepted ++ [(m.streamId, sending.reference first m)] := by
  obtain ⟨hbytes, hidle, c, hc, huse⟩ := hfree
  have hlt := List.findIdx_lt_length_of_exists (p := fun c : SendContext => !c.inUse)
    ⟨c, hc, by rw [huse]; rfl⟩
  have hget := List.getElem?_eq_getElem hlt
  obtain ⟨copy, hcopy, hlen⟩ := hcopied.strdup
  obtain ⟨hsame, hsome⟩ := @messageCrc_append m.bytes m.behind m.len m.toNat_len w.object.useCrc
  obtain ⟨crc, hcrc⟩ := Option.isSome_iff_exists.mp hsome
  obtain ⟨n, heq, hoffers⟩ := sendLongMessage_claims hidle hget hcopy (hsame.trans hcrc)
  have hstep : ∃ w', sending.step w (.send m) = some w' ∧ w'.object = { w.object with
      cbusObject := n
      sendContext := w.object.sendContext.set (w.object.sendContext.findIdx (!·.inUse))
        (w.object.sendContext[w.object.sendContext.findIdx (!·.inUse)].claim copy m) } ∧
      w'.accepted = w.accepted ++ [(m.streamId, sending.reference w.object m)] := by
    unfold SendingClass.step
    change ∃ w', (w.object.sendLongMessage _ _ _ _).bind _ = some w' ∧ _
    rw [heq, Option.bind_some]
    refine ⟨_, rfl, rfl, ?_⟩
    rw [if_pos h.takes]
  obtain ⟨w', hw', hobject, haccepted⟩ := hstep
  have haccounts := (h.toAccounts.send hw').1 (Or.inr h.takes)
  refine ⟨w', hw', ⟨haccounts, ?_, ?_, ?_, ?_, ?_, ?_⟩, ?_⟩
  · rw [hobject]
    refine ⟨fun d hd hdu => ?_, lt_of_lt_of_eq h.safely.turn List.length_set.symm⟩
    rcases List.mem_or_eq_of_mem_set hd with hd | rfl
    · exact h.safely.buffers d hd hdu
    · exact le_of_eq_of_le m.toNat_len hlen
  · rw [hobject]
    intro d hd hdu
    rcases List.mem_or_eq_of_mem_set hd with hd | rfl
    · exact h.remaining d hd hdu
    · change (0 : UInt32) < m.len
      rw [UInt32.lt_iff_toNat_lt, m.toNat_len]
      exact List.length_pos_of_ne_nil hbytes
  · rw [hobject]
    exact h.canReport
  · rw [hobject]
    exact hoffers.transmits h.transmits
  · rw [hobject]
    exact hoffers.moduleConfig.trans h.sameModule
  · rw [hobject]
    exact h.sameCrc
  · rw [haccepted, h.reference_eq]

theorem remaining_sendNext {now sent : UInt32}
    (h : ∀ c ∈ lm.sendContext, c.inUse = true → c.sendBufferIndex < c.sendBufferLen)
    (hcall : lm.sendNext now sent = some (ret, lm')) :
    ∀ c ∈ lm'.sendContext, c.inUse = true → c.sendBufferIndex < c.sendBufferLen := by
  obtain ⟨c, hget, hcase⟩ := sendNext_eq_some hcall
  split_ifs at hcase
  · obtain ⟨data, index, n, -, -, -, rfl⟩ := hcase
    intro d hd hdu
    rcases List.mem_or_eq_of_mem_set hd with hd | rfl
    · exact h d hd hdu
    · unfold SendContext.advance at hdu ⊢
      split_ifs at hdu ⊢ with hend
      exact UInt32.not_le.mp hend
  · rw [hcase.2]
    exact h

theorem sendNext_module {now sent : UInt32} (htx : lm.cbusObject.Transmits)
    (hcall : lm.sendNext now sent = some (ret, lm')) :
    lm'.cbusObject.Transmits ∧ lm'.cbusObject.moduleConfig = lm.cbusObject.moduleConfig ∧
      lm'.useCrc = lm.useCrc := by
  obtain ⟨c, -, hcase⟩ := sendNext_eq_some hcall
  split_ifs at hcase
  · obtain ⟨data, index, n, -, -, hoffers, rfl⟩ := hcase
    exact ⟨hoffers.transmits htx, hoffers.moduleConfig, rfl⟩
  · rw [hcase.2]
    exact ⟨htx, rfl, rfl⟩

theorem Serving.process (h : Serving first w) (clock : Clock) :
    ∃ w', sending.step w (.process clock) = some w' ∧ Serving first w' ∧
      w'.accepted = w.accepted := by
  obtain ⟨rs, hs, hcheck, hreport⟩ := checkTimeouts_total h.canReport clock
  have hsafely : SendsSafely { w.object with receiveContext := rs, handled := hs } :=
    ⟨h.safely.buffers, h.safely.turn⟩
  obtain ⟨ret, b, hb, hsafely', hsame⟩ :=
    hsafely.sendNext (clock rs.length) (clock (rs.length + 1))
  have hprocess : w.object.process clock = some (ret, b.nextContext) := by
    unfold CBUSLongMessageEx.process
    rw [hcheck, Option.bind_eq_bind, Option.bind_some]
    dsimp only
    rw [hb]
    rfl
  have hstep : ∃ w', sending.step w (.process clock) = some w' ∧ w'.object = b.nextContext ∧
      w'.accepted = w.accepted := by
    unfold SendingClass.step
    change ∃ w', (w.object.process clock).bind _ = some w' ∧ _
    rw [hprocess, Option.bind_some]
    exact ⟨_, rfl, rfl, rfl⟩
  obtain ⟨w', hw', hobject, haccepted⟩ := hstep
  have hremaining : ∀ c ∈ b.sendContext, c.inUse = true → c.sendBufferIndex < c.sendBufferLen :=
    @remaining_sendNext { w.object with receiveContext := rs, handled := hs } b ret _ _ h.remaining hb
  obtain ⟨htx, hmodule, hcrc⟩ :=
    @sendNext_module { w.object with receiveContext := rs, handled := hs } b ret _ _ h.transmits hb
  have htaken : Taken w (.process clock) := fun c hget huse _ =>
    ⟨fun _ => h.remaining c (List.mem_of_getElem? hget) huse, fun _ => h.takes⟩
  obtain ⟨n, cs, i, rfl⟩ := hsame
  refine ⟨w', hw', ⟨(h.toAccounts.process hw').1 htaken, ?_, ?_, ?_, ?_, ?_, ?_⟩, haccepted⟩
  · rw [hobject]
    exact ⟨hsafely'.buffers, nextContext_turn hsafely'.turn⟩
  · rw [hobject]
    exact hremaining
  · rw [hobject]
    exact hreport
  · rw [hobject]
    exact htx
  · rw [hobject]
    exact hmodule.trans h.sameModule
  · rw [hobject]
    exact hcrc.trans h.sameCrc

/-- On each stream there are the frames of the messages that were started there, one message after
the other, and all of them as soon as the stream is not in progress any more. -/
def StreamsInOrder (first : CBUSLongMessageEx) (calls : List SenderCall)
    (lm : CBUSLongMessageEx) : Prop :=
  ∀ t, let due := ofTag CANFrame.streamId t first.cbusObject.transmittedFrames ++
      ((startedMessages calls).filter (·.streamId = t)).flatMap (sending.reference first)
    ofTag CANFrame.streamId t lm.cbusObject.transmittedFrames <+: due ∧
      (lm.inProgress t = false ↔ ofTag CANFrame.streamId t lm.cbusObject.transmittedFrames = due)

/-- If the context whose turn it is is in use and its delay is over, a call of `process` sends
exactly one frame, on its stream. -/
def Proceeds (lm : CBUSLongMessageEx) (clock : Clock) : Prop :=
  ∀ c, lm.sendContext[lm.context.toNat]? = some c → c.inUse = true →
    lm.msgDelay.toUInt32 ≤ clock lm.receiveContext.length - c.lastFragmentSent →
    ∃ ret lm' frame, lm.process clock = some (ret, lm') ∧ frame.streamId = c.sendStreamId ∧
      lm'.cbusObject.transmittedFrames = lm.cbusObject.transmittedFrames ++ [frame]

/-- No call faults, the streams are in order after each, and `process` goes on with them. -/
def InterleavesStreams (first : CBUSLongMessageEx) (calls : List SenderCall) : Prop :=
  ∀ past, past <+: calls →
    ∃ w, runOption sending.step { object := first } past = some w ∧
      first.StreamsInOrder past w.object ∧
      ∀ clock, past ++ [.process clock] <+: calls → w.object.Proceeds clock

theorem Serving.proceeds (h : Serving first w) (clock : Clock) : w.object.Proceeds clock := by
  intro c hget huse hover
  obtain ⟨w', hw', hserving, -⟩ := h.process clock
  obtain ⟨ret, lm', hprocess, rfl⟩ := SendingClass.step_process hw'
  obtain ⟨a, b, ⟨rs, hs, hlen, rfl⟩, hb, rfl⟩ := process_eq_some hprocess
  obtain ⟨d, hd, hcase⟩ := sendNext_eq_some hb
  cases Option.some.inj (hget.symm.trans hd)
  rw [if_pos ⟨huse, hover⟩] at hcase
  obtain ⟨data, index, n, hfill, rfl, hoffers, rfl⟩ := hcase
  obtain ⟨pending, hlanes, -⟩ := h.balanced
  obtain ⟨rest, -, htag, -⟩ := hlanes.packet h.distinct hget huse hfill hoffers.moduleConfig 0
  have hframes := hoffers.frames
  rw [if_pos h.takes] at hframes
  exact ⟨_, _, _, hprocess, htag, hframes⟩

theorem Serving.complete_iff (h : Serving first w) (t : UInt8) :
    w.object.inProgress t = false ↔
      ofTag CANFrame.streamId t w.object.cbusObject.transmittedFrames =
        ofTag CANFrame.streamId t first.cbusObject.transmittedFrames ++ itemsOf t w.accepted := by
  obtain ⟨pending, hlanes, hbal⟩ := h.balanced
  constructor
  · intro hidle
    exact hbal.complete (hlanes.free hidle)
  · intro hcomplete
    have hnone : pending t = [] := by
      have hsum := hbal t
      rw [hcomplete] at hsum
      exact List.append_right_eq_self.mp hsum
    by_contra hprogress
    have hbusy : session SendContext.sessionKey w.object.sendContext t ≠ none := fun hs =>
      hprogress (inProgress_eq_false.mpr hs)
    obtain ⟨c, hc⟩ := Option.ne_none_iff_exists'.mp hbusy
    obtain ⟨hmem, hkey⟩ := (session_eq_some h.distinct).mp hc
    have hlane := hlanes t
    rw [hc] at hlane
    obtain ⟨msg, k, hcarries, hpending⟩ := hlane
    have hmore := hcarries.index_lt_iff.mp
      (h.remaining c hmem (SendContext.sessionKey_eq_some.mp hkey).1)
    rw [hpending, dataFrames_drop (lt_fragmentCount.mpr hmore)] at hnone
    exact absurd hnone (List.cons_ne_nil _ _)

theorem Serving.run (calls : List SenderCall) (h : Serving first w)
    (hstart : GuardedOption sending.step StartsFree w calls)
    (hcopied : ∀ m ∈ startedMessages calls, m.Copied) :
    ∃ w', runOption sending.step w calls = some w' ∧ Serving first w' ∧
      w'.accepted = w.accepted ++
        (startedMessages calls).map fun m => (m.streamId, sending.reference first m) := by
  induction calls generalizing w with
  | nil => exact ⟨w, rfl, h, (List.append_nil _).symm⟩
  | cons call calls ih =>
    cases call with
    | send m =>
      obtain ⟨w1, hw1, h1, haccepted⟩ := h.send hstart.1 (hcopied m List.mem_cons_self)
      obtain ⟨w2, hrun, h2, haccepted2⟩ := ih h1 (hstart.2 w1 hw1)
        fun m' hm' => hcopied m' (List.mem_cons_of_mem _ hm')
      refine ⟨w2, (runOption_cons hw1 calls).trans hrun, h2, ?_⟩
      rw [haccepted2, haccepted, List.append_assoc]
      rfl
    | process clock =>
      obtain ⟨w1, hw1, h1, haccepted⟩ := h.process clock
      obtain ⟨w2, hrun, h2, haccepted2⟩ := ih h1 (hstart.2 w1 hw1) hcopied
      refine ⟨w2, (runOption_cons hw1 calls).trans hrun, h2, ?_⟩
      rw [haccepted2, haccepted]
      rfl

theorem serving_start (hquiet : first.Quiet) (hreport : first.CanReport)
    (htx : first.cbusObject.Transmits) : Serving first { object := first } where
  toAccounts := accounts_start hquiet.idle
  safely := ⟨fun c hc huse => absurd (huse.symm.trans (hquiet.idle c hc)) (by decide), hquiet.turn⟩
  remaining := fun c hc huse => absurd (huse.symm.trans (hquiet.idle c hc)) (by decide)
  canReport := hreport
  transmits := htx
  sameModule := rfl
  sameCrc := rfl

/-- Messages that are copied completely, each started while its stream and a context are free, are
interleaved without alteration, whatever the order of the calls. -/
theorem interleavesStreams_of_copied (lm : CBUSLongMessageEx) (hquiet : lm.Quiet)
    (hreport : lm.CanReport) (htx : lm.cbusObject.Transmits) (calls : List SenderCall)
    (hstart : GuardedOption sending.step StartsFree { object := lm } calls)
    (hcopied : ∀ m ∈ startedMessages calls, m.Copied) : lm.InterleavesStreams calls := by
  intro past hpast
  have hmessages : startedMessages past <+: startedMessages calls := hpast.filterMap _
  obtain ⟨w, hrun, hserving, haccepted⟩ := (serving_start hquiet hreport htx).run past
    (hstart.of_prefix hpast) fun m hm => hcopied m (hmessages.subset hm)
  refine ⟨w, hrun, ?_, fun clock _ => hserving.proceeds clock⟩
  intro t
  have hitems : itemsOf t w.accepted =
      ((startedMessages past).filter (·.streamId = t)).flatMap (sending.reference lm) := by
    rw [haccepted, List.nil_append, itemsOf, List.filter_map, List.flatMap_map]
    rfl
  have hpre := hserving.toAccounts.losesNothing.2 t
  have hcomplete := hserving.complete_iff t
  rw [hitems] at hpre hcomplete
  exact ⟨hpre, hcomplete⟩

theorem startsFree_smallObject (m : OutgoingMessage) (hbytes : m.bytes ≠ []) :
    StartsFree { object := smallObject 20 } (.send m) := by
  have hnone : (smallObject 20).inProgress m.streamId = false := by
    unfold inProgress
    rw [List.any_eq_false]
    intro c hc
    rw [(smallObject_quiet 20).idle c hc]
    exact Bool.false_ne_true
  have hlt := (smallObject_quiet 20).turn
  exact ⟨hbytes, hnone, _, List.getElem_mem hlt, (smallObject_quiet 20).idle _ (List.getElem_mem hlt)⟩

theorem interleavesStreams_of_copied_two :
    (smallObject 20).InterleavesStreams
      [.send (oneByte 1), .send sixBytes, .process fun _ => 100, .process fun _ => 100] := by
  refine interleavesStreams_of_copied (smallObject 20) (smallObject_quiet 20) (Or.inl rfl)
    (fun _ => rfl) _ ⟨startsFree_smallObject _ (by decide), fun w hw => ⟨?_, fun _ _ =>
      ⟨trivial, fun _ _ => ⟨trivial, fun _ _ => trivial⟩⟩⟩⟩ (by decide)
  have hfields : (sending.step { object := smallObject 20 } (.send (oneByte 1))).map
      (fun w => (w.object.inProgress 7, w.object.sendContext.any fun c => !c.inUse)) =
        some (false, true) := by decide +kernel
  rw [hw, Option.map_some, Option.some.injEq, Prod.mk.injEq] at hfields
  obtain ⟨c, hc, hfree⟩ := List.any_eq_true.mp hfields.2
  exact ⟨by decide, hfields.1, c, hc, by simpa using hfree⟩

def zeroInside : OutgoingMessage := ⟨[1, 0, 2], [0], 7, defaultPriority, by simp⟩

/-- Its copy ends at the zero, and the first data packet is read from behind the copy. -/
theorem not_interleavesStreams_zeroInside :
    (smallObject 20).Quiet ∧ (smallObject 20).CanReport ∧
      (smallObject 20).cbusObject.Transmits ∧
      GuardedOption sending.step StartsFree { object := smallObject 20 }
        [.send zeroInside, .process fun _ => 100] ∧
      ¬ (smallObject 20).InterleavesStreams [.send zeroInside, .process fun _ => 100] := by
  refine ⟨smallObject_quiet 20, Or.inl rfl, fun _ => rfl,
    ⟨startsFree_smallObject _ (by decide), fun _ _ => ⟨trivial, fun _ _ => trivial⟩⟩, fun h => ?_⟩
  obtain ⟨w, hrun, -⟩ := h _ List.prefix_rfl
  have hfault : (runOption sending.step { object := smallObject 20 }
      [.send zeroInside, .process fun _ => 100]).isNone = true := by decide +kernel
  rw [hrun] at hfault
  exact absurd hfault Bool.false_ne_true

end CBUSLongMessageEx
end CBUSPicoLib
