import CBUSPicoLib.GridConnect.Server

/-!
# Framing does not depend on how the stream is cut

`extractAndQueueGC` searches a buffer for delimiters; what it does is to take
the messages that `feed` finds and to keep the beginning of the next one. The
bytes kept in `bufferRecv` are what `feed` carries from one segment to the next.
-/

namespace CBUSPicoLib

open DelimitedStream

theorem pbufMemfind_eq {p before rest : List UInt8} {c : UInt8} {n : ℕ}
    (h : p.drop n = before ++ c :: rest) (hc : c ∉ before) :
    pbufMemfind p c n = n + before.length := by
  have hfind : (before ++ c :: rest).findIdx? (· == c) = some before.length := by
    rw [List.findIdx?_append, List.findIdx?_eq_none_iff.mpr fun x hx => ?_]
    · simp [List.findIdx?_cons]
    · exact beq_eq_false_iff_ne.mpr fun hxc => hc (hxc ▸ hx)
  unfold pbufMemfind
  rw [h, hfind]

theorem pbufMemfind_none {p : List UInt8} {c : UInt8} {n : ℕ} (h : c ∉ p.drop n) :
    pbufMemfind p c n = 0xFFFF := by
  have hfind : (p.drop n).findIdx? (· == c) = none :=
    List.findIdx?_eq_none_iff.mpr fun x hx => beq_eq_false_iff_ne.mpr fun hxc => h (hxc ▸ hx)
  unfold pbufMemfind
  rw [hfind]

theorem length_of_drop_eq {p q : List UInt8} {n : ℕ} (h : p.drop n = q) (hq : q ≠ []) :
    n + q.length = p.length := by
  have hlen := congrArg List.length h
  have hpos := List.length_pos_iff.mpr hq
  rw [List.length_drop] at hlen
  omega

theorem drop_of_drop_append {p q r : List UInt8} {n : ℕ} (h : p.drop n = q ++ r) :
    p.drop (n + q.length) = r := by
  rw [← List.drop_drop, h, List.drop_left]

namespace CBUSGridConnect

def takeMessage (state : CBUSGridConnect) (c : List UInt8) : Option CBUSGridConnect :=
  if c.length ≤ 28 then state.queueMessage c c.length 0 else some state

/-- What happens to the beginning of a message at the end of a buffer. -/
def keep (state : CBUSGridConnect) (t : List UInt8) : Option CBUSGridConnect :=
  if t = [] then some state
  else if t.length ≤ 28 then state.savePartial t t.length 0 else some state

theorem queueMessage_of_drop {p c rest : List UInt8} {n : ℕ} (state : CBUSGridConnect)
    (h : p.drop n = c ++ rest) :
    state.queueMessage p c.length n = state.queueMessage c c.length 0 := by
  unfold queueMessage pbufCopyPartial
  rw [h, List.take_left, List.drop_zero, List.take_length]

theorem savePartial_of_drop {p t : List UInt8} {n : ℕ} (state : CBUSGridConnect)
    (h : p.drop n = t) : state.savePartial p t.length n = state.savePartial t t.length 0 := by
  unfold savePartial pbufCopyPartial
  rw [h, List.drop_zero]

section Search

variable {p before body rest : List UInt8} {n : ℕ}

theorem extractAndQueueGC_outside (state : CBUSGridConnect) (hstart : chColon ∉ p.drop n) :
    state.extractAndQueueGC n p = some state := by
  unfold extractAndQueueGC
  rw [dif_neg (not_not.mpr (pbufMemfind_none hstart))]

theorem extractAndQueueGC_begun (state : CBUSGridConnect) (hp : p.length ≤ 0xFFFF)
    (hdrop : p.drop n = before ++ chColon :: body) (hbefore : chColon ∉ before)
    (hbody : chSemicolon ∉ body) :
    state.extractAndQueueGC n p = state.keep (chColon :: body) := by
  have hlen := length_of_drop_eq hdrop (by simp)
  simp only [List.length_append, List.length_cons] at hlen
  have htail := drop_of_drop_append hdrop
  have hlast : pbufMemfind p chSemicolon (n + before.length) = 0xFFFF := by
    apply pbufMemfind_none
    rw [htail, List.mem_cons, not_or]
    exact ⟨by decide, hbody⟩
  have hleft : p.length - (n + before.length) = (chColon :: body).length := by
    rw [List.length_cons]
    omega
  unfold extractAndQueueGC
  rw [pbufMemfind_eq hdrop hbefore, dif_pos (by omega), dif_neg (not_not.mpr hlast)]
  dsimp only
  rw [hleft, savePartial_of_drop state htail]
  rfl

theorem extractAndQueueGC_frame (state : CBUSGridConnect) (hp : p.length ≤ 0xFFFF)
    (hdrop : p.drop n = before ++ chColon :: body ++ chSemicolon :: rest)
    (hbefore : chColon ∉ before) (hbody : chSemicolon ∉ body) :
    ∃ next, p.drop next = rest ∧ state.extractAndQueueGC n p =
      if rest = [] then state.takeMessage (chColon :: body ++ [chSemicolon])
      else (state.takeMessage (chColon :: body ++ [chSemicolon])).bind fun s =>
        s.extractAndQueueGC next p := by
  have hlen := length_of_drop_eq hdrop (by simp)
  simp only [List.length_append, List.length_cons] at hlen
  have hfirst : pbufMemfind p chColon n = n + before.length :=
    pbufMemfind_eq (hdrop.trans (List.append_assoc _ _ _)) hbefore
  have htail : p.drop (n + before.length) = (chColon :: body) ++ chSemicolon :: rest :=
    drop_of_drop_append (hdrop.trans (List.append_assoc _ _ _))
  have hlast : pbufMemfind p chSemicolon (n + before.length) =
      n + before.length + (body.length + 1) :=
    pbufMemfind_eq htail (by rw [List.mem_cons, not_or]; exact ⟨by decide, hbody⟩)
  have hmessage : p.drop (n + before.length) = (chColon :: body ++ [chSemicolon]) ++ rest := by
    rw [htail]
    simp
  have hcount : n + before.length + (body.length + 1) + 1 - (n + before.length) =
      (chColon :: body ++ [chSemicolon]).length := by
    simp only [List.length_append, List.length_cons, List.length_nil]
    omega
  have hleft : (chColon :: body ++ [chSemicolon]).length + (n + before.length) < p.length ↔
      ¬ rest = [] := by
    rw [List.length_append, List.length_cons, List.length_singleton,
      ← List.length_eq_zero_iff (l := rest)]
    omega
  refine ⟨(chColon :: body ++ [chSemicolon]).length + (n + before.length), ?_, ?_⟩
  · rw [Nat.add_comm]
    exact drop_of_drop_append hmessage
  · rw [extractAndQueueGC, hfirst, dif_pos (by omega)]
    dsimp only
    rw [hlast, dif_pos (by omega), hcount, queueMessage_of_drop state hmessage]
    by_cases hrest : rest = []
    · rw [if_pos hrest, dif_neg (mt hleft.mp (not_not.mpr hrest))]
      rfl
    · rw [if_neg hrest, dif_pos (hleft.mpr hrest)]
      rfl

/-- Searching for the delimiters takes the messages that the stream consists of. -/
theorem extractAndQueueGC_eq (hp : p.length ≤ 0xFFFF) (state : CBUSGridConnect) (n : ℕ) :
    state.extractAndQueueGC n p =
      ((feed chColon chSemicolon [] (p.drop n)).1.foldlM takeMessage state).bind fun s =>
        s.keep (feed chColon chSemicolon [] (p.drop n)).2 := by
  generalize hdrop : p.drop n = q
  induction q using search_induction chColon chSemicolon generalizing n state with
  | outside q hstart =>
    rw [extractAndQueueGC_outside state (hdrop ▸ hstart), feed_outside hstart]
    rfl
  | begun before body hbefore hbody =>
    rw [extractAndQueueGC_begun state hp hdrop hbefore hbody, feed_begin hbefore hbody]
    rfl
  | frame before body rest hbefore hbody ih =>
    obtain ⟨next, hnext, hextract⟩ := extractAndQueueGC_frame state hp hdrop hbefore hbody
    rw [hextract, feed_frame hbefore hbody]
    dsimp only
    rw [List.foldlM_cons, Option.bind_eq_bind, Option.bind_assoc]
    split_ifs with hrest
    · subst hrest
      cases state.takeMessage (chColon :: body ++ [chSemicolon]) <;> rfl
    · congr 1
      funext s
      exact ih s next hnext

end Search

theorem copy_spec {t : List UInt8} (ht : t.length ≤ 28) (m : GcMessage) :
    ∃ m' : GcMessage, pbufCopyPartial t m t.length 0 = some (t.length, m') ∧
      t <+: m'.byte.toList := by
  obtain ⟨m', hput, htext, -⟩ := GcMessage.putChars_text t (List.nil_prefix (l := m.byte.toList))
    (by simpa using ht)
  refine ⟨m', ?_, htext⟩
  unfold pbufCopyPartial
  rw [List.drop_zero, List.take_length]
  rw [show m.putChars 0 t = some m' from hput]
  rfl

theorem toNat_ofNat_length {t : List UInt8} (ht : t.length ≤ 28) :
    (UInt8.ofNat t.length).toNat = t.length := by
  rw [UInt8.toNat_ofNat']
  omega

/-- The message of a frame is decoded and queued, and the buffer is cleared. -/
theorem takeMessage_text {f : CANFrame} (hf : f.Encodable) (state : CBUSGridConnect) :
    state.takeMessage (gcText f) = some { state with
      queued := state.queued ++ [overlay f {}]
      bufferRecv := .empty } := by
  have hlen := length_gcText_le hf.len
  obtain ⟨m, hcopy, htext⟩ := copy_spec hlen state.bufferRecv
  have hdecode : decodeGC { m with len := UInt8.ofNat (gcText f).length } {} =
      some (some (overlay f {})) :=
    @decodeGC_text f hf { m with len := UInt8.ofNat (gcText f).length } htext
      (toNat_ofNat_length hlen) {}
  have hpos : (gcText f).length ≠ 0 := by
    rw [length_gcText hf.len]
    exact Nat.succ_ne_zero _
  unfold takeMessage queueMessage
  rw [if_pos hlen, hcopy, Option.bind_eq_bind, Option.bind_some]
  dsimp only
  rw [if_pos hpos, hdecode]
  rfl

theorem takeMessages_texts {fs : List CANFrame} (hfs : ∀ f ∈ fs, f.Encodable)
    (state : CBUSGridConnect) :
    (fs.map gcText).foldlM takeMessage state = some { state with
      queued := state.queued ++ fs.map (overlay · {})
      bufferRecv := if fs = [] then state.bufferRecv else .empty } := by
  induction fs generalizing state with
  | nil => simp
  | cons f fs ih =>
    rw [List.map_cons, List.foldlM_cons, takeMessage_text (hfs f List.mem_cons_self),
      Option.bind_eq_bind, Option.bind_some, ih fun g hg => hfs g (List.mem_cons_of_mem _ hg)]
    simp

theorem keep_spec {t : List UInt8} (hne : t ≠ []) (ht : t.length ≤ 28) (state : CBUSGridConnect) :
    ∃ m : GcMessage, state.keep t = some { state with bufferRecv := m } ∧ m.chars = some t := by
  obtain ⟨m, hcopy, rest, hrest⟩ := copy_spec ht state.bufferRecv
  have hlen := toNat_ofNat_length ht
  refine ⟨{ m with len := UInt8.ofNat t.length }, ?_, ?_⟩
  · unfold keep savePartial
    rw [if_neg hne, if_pos ht, hcopy]
    rfl
  · unfold GcMessage.chars
    dsimp only
    rw [if_pos (UInt8.le_iff_toNat_le.mpr (by rw [hlen]; exact ht)), hlen, ← hrest, List.take_left]

theorem chars_of_len_eq_zero {m : GcMessage} (h : m.len = 0) : m.chars = some [] := by
  unfold GcMessage.chars
  rw [h]
  rfl

def deliver (state : CBUSGridConnect) (p : List UInt8) : Option CBUSGridConnect :=
  state.serverRecv (some p) .errOk .errOk

/-- The connection is open, and `p` goes in front of the next segment. -/
def Carries (state : CBUSGridConnect) (p : List UInt8) : Prop :=
  (state.clientState = .csAccepted ∧ p = []) ∨
    (state.clientState = .csReceived ∧ state.bufferRecv.chars = some p ∧
      Pending chColon chSemicolon p)

theorem deliver_eq {state : CBUSGridConnect} {p seg : List UInt8} (h : state.Carries p)
    (hseg : seg ≠ []) (hlen : p.length + seg.length ≤ 0xFFFF) :
    state.deliver seg = ((feed chColon chSemicolon p seg).1.foldlM takeMessage
      { state with clientState := .csReceived }).bind fun s =>
        s.keep (feed chColon chSemicolon p seg).2 := by
  have hpos : 0 < seg.length := List.length_pos_iff.mpr hseg
  unfold deliver serverRecv
  rcases h with ⟨hstate, rfl⟩ | ⟨hstate, hchars, hpending⟩
  · rw [hstate]
    change (if 0 < seg.length then _ else _) = _
    rw [if_pos hpos]
    exact extractAndQueueGC_eq (by simpa using hlen) _ 0
  · have hself : { state with clientState := ClientState.csReceived } = state := by
      rw [← hstate]
    rw [hself, ← hpending.feed_append, hstate]
    change (if 0 < seg.length then _ else _) = _
    rw [if_pos hpos]
    split_ifs with hzero
    · rw [hchars, Option.bind_eq_bind, Option.bind_some, pbufCat, if_pos hlen, Option.bind_some]
      exact extractAndQueueGC_eq (by rwa [List.length_append]) state 0
    · have hnil : p = [] := by
        rw [chars_of_len_eq_zero (not_not.mp hzero)] at hchars
        exact (Option.some.inj hchars).symm
      subst hnil
      exact extractAndQueueGC_eq (by simpa using hlen) state 0

theorem Carries.pending {state : CBUSGridConnect} {p : List UInt8} (h : state.Carries p) :
    Pending chColon chSemicolon p := by
  rcases h with ⟨-, rfl⟩ | ⟨-, -, hpending⟩
  · exact Or.inl rfl
  · exact hpending

theorem deliver_nil {state : CBUSGridConnect} {p : List UInt8} (h : state.Carries p) :
    state.deliver [] = some { state with clientState := .csReceived } := by
  unfold deliver serverRecv
  rcases h with ⟨hstate, -⟩ | ⟨hstate, -, -⟩
  · rw [hstate]
    rfl
  · have hself : { state with clientState := ClientState.csReceived } = state := by
      rw [← hstate]
    rw [hself, hstate]
    rfl

/-- A segment in which only whole frames end queues them, and `bufferRecv` holds what is carried
to the next one. -/
theorem deliver_texts {state : CBUSGridConnect} {p seg t : List UInt8} {fs : List CANFrame}
    (h : state.Carries p) (hchars : state.bufferRecv.chars = some p)
    (hfeed : feed chColon chSemicolon p seg = (fs.map gcText, t)) (hfs : ∀ f ∈ fs, f.Encodable)
    (ht : t.length ≤ 28) (hlen : p.length + seg.length ≤ 0xFFFF) :
    ∃ state', state.deliver seg = some state' ∧
      state'.queued = state.queued ++ fs.map (overlay · {}) ∧ state'.Carries t ∧
      state'.bufferRecv.chars = some t := by
  have hpending := (h.pending.feed seg).1
  rw [hfeed] at hpending
  by_cases hseg : seg = []
  · subst hseg
    obtain ⟨hnone, rfl⟩ := Prod.mk.inj hfeed
    obtain rfl := List.map_eq_nil_iff.mp hnone.symm
    exact ⟨_, deliver_nil h, (List.append_nil _).symm, Or.inr ⟨rfl, hchars, hpending⟩, hchars⟩
  · rw [deliver_eq h hseg hlen, hfeed]
    dsimp only
    rw [takeMessages_texts hfs, Option.bind_some]
    by_cases hnil : t = []
    · subst hnil
      have hempty : (if fs = [] then state.bufferRecv else GcMessage.empty).chars = some [] := by
        split_ifs with hnone
        · rw [hchars]
          by_contra hp
          obtain ⟨c, hc, -⟩ := exists_frame_of_carried (fun hp' => hp (congrArg some hp')) hfeed
          rw [hnone] at hc
          exact List.not_mem_nil hc
        · rfl
      exact ⟨_, rfl, rfl, Or.inr ⟨rfl, hempty, hpending⟩, hempty⟩
    · obtain ⟨m, hkeep, hm⟩ := keep_spec hnil ht { state with
        clientState := .csReceived
        queued := state.queued ++ fs.map (overlay · {})
        bufferRecv := if fs = [] then state.bufferRecv else .empty }
      exact ⟨_, hkeep, rfl, Or.inr ⟨rfl, hm, hpending⟩, hm⟩

end CBUSGridConnect

/-- What a client sends: frames, and other bytes between them. -/
inductive Chunk
  | junk (bytes : List UInt8)
  | frame (f : CANFrame)

/-- The string that `encodeGC` makes of a frame. -/
def CANFrame.encoded (f : CANFrame) : List UInt8 :=
  match encodeGC f with
  | some (true, m) => m.byte.toList.take m.len.toNat
  | _ => []

namespace Chunk

def Valid : Chunk → Prop
  | junk bytes => chColon ∉ bytes
  | frame f => f.Encodable

instance (c : Chunk) : Decidable c.Valid :=
  match c with
  | junk bytes => inferInstanceAs (Decidable (chColon ∉ bytes))
  | frame f => inferInstanceAs (Decidable f.Encodable)

def bytes : Chunk → List UInt8
  | junk bytes => bytes
  | frame f => f.encoded

def frame? : Chunk → Option CANFrame
  | junk _ => none
  | frame f => some f

end Chunk

theorem encoded_eq {f : CANFrame} (hf : f.Encodable) : f.encoded = gcText f := by
  obtain ⟨m, hencode, ⟨rest, hrest⟩, hlen⟩ := encodeGC_text hf
  unfold CANFrame.encoded
  rw [hencode]
  dsimp only
  rw [hlen, ← hrest, List.take_left]

theorem gcText_isFrame (f : CANFrame) :
    ∃ body, gcText f = chColon :: body ++ [chSemicolon] ∧ chSemicolon ∉ body := by
  refine ⟨idChars f ++ [flagChar f] ++ hexData f, by simp [gcText], ?_⟩
  have hid : chSemicolon ∉ idChars f := by
    intro hmem
    unfold idChars at hmem
    split_ifs at hmem
    · rcases List.mem_cons.mp hmem with hc | hc
      · exact absurd hc (by decide)
      · exact (isHex_of_mem_extendedId hc).ne_semicolon rfl
    · rcases List.mem_cons.mp hmem with hc | hc
      · exact absurd hc (by decide)
      · exact (isHex_of_mem_standardId hc).ne_semicolon rfl
  have hflag : chSemicolon ≠ flagChar f := by
    unfold flagChar
    cases f.rtr <;> decide
  rw [List.mem_append, List.mem_append, List.mem_singleton]
  rintro ((hmem | hmem) | hmem)
  · exact hid hmem
  · exact hflag hmem
  · exact (isHex_of_mem_hexData hmem).ne_semicolon rfl

theorem feed_gcText (f : CANFrame) :
    feed chColon chSemicolon [] (gcText f) = ([gcText f], []) := by
  obtain ⟨body, hbody, hstop⟩ := gcText_isFrame f
  rw [hbody]
  exact feed_frame List.not_mem_nil hstop []

theorem feed_chunks {chunks : List Chunk} (h : ∀ c ∈ chunks, c.Valid) :
    feed chColon chSemicolon [] (chunks.flatMap Chunk.bytes) =
      ((chunks.filterMap Chunk.frame?).map gcText, []) := by
  induction chunks with
  | nil => rfl
  | cons c chunks ih =>
    have hrest := ih fun d hd => h d (List.mem_cons_of_mem _ hd)
    have hc := h c List.mem_cons_self
    rw [List.flatMap_cons, feed_append]
    cases c with
    | junk bytes =>
      change (_ ++ _, _) = _
      rw [show Chunk.bytes (.junk bytes) = bytes from rfl, feed_outside hc, hrest]
      rfl
    | frame f =>
      rw [show Chunk.bytes (.frame f) = f.encoded from rfl, encoded_eq hc, feed_gcText, hrest]
      rfl

namespace CBUSGridConnect

theorem run_deliver {segs : List (List UInt8)} {fs : List CANFrame} (hfs : ∀ f ∈ fs, f.Encodable)
    {state : CBUSGridConnect} {p : List UInt8} (h : state.Carries p)
    (hchars : state.bufferRecv.chars = some p)
    (hfeed : feed chColon chSemicolon p segs.flatten = (fs.map gcText, []))
    (hlen : p.length + segs.flatten.length ≤ 0xFFFF) :
    ∃ state', Runs.runOption deliver state segs = some state' ∧
      state'.queued = state.queued ++ fs.map (overlay · {}) := by
  induction segs generalizing state p fs with
  | nil =>
    obtain ⟨hnone, -⟩ := Prod.mk.inj hfeed
    obtain rfl := List.map_eq_nil_iff.mp hnone.symm
    exact ⟨state, rfl, (List.append_nil _).symm⟩
  | cons seg segs ih =>
    rw [List.flatten_cons] at hfeed hlen
    rw [List.length_append] at hlen
    have hle : (feed chColon chSemicolon p seg).2.length ≤ p.length + seg.length :=
      length_feed_le p seg
    rw [feed_append] at hfeed
    obtain ⟨hframes, hrest⟩ := Prod.mk.inj hfeed
    obtain ⟨fs1, fs2, rfl, h1, h2⟩ := List.map_eq_append_iff.mp hframes.symm
    generalize ht : (feed chColon chSemicolon p seg).2 = t at hle hrest h2
    -- what is carried on is part of a text still to come, hence short enough to be kept
    have hcarried : t.length ≤ 28 := by
      by_cases hnil : t = []
      · rw [hnil]
        exact Nat.zero_le _
      · obtain ⟨c, hc, -, hlt⟩ := exists_frame_of_carried hnil (Prod.ext h2.symm hrest)
        obtain ⟨f, hf, rfl⟩ := List.mem_map.mp hc
        exact hlt.le.trans (length_gcText_le (hfs f (List.mem_append_right _ hf)).len)
    obtain ⟨state1, hdeliver, hqueued1, hcarries1, hchars1⟩ := deliver_texts h hchars
      (Prod.ext h1.symm ht) (fun f hf => hfs f (List.mem_append_left _ hf)) hcarried (by omega)
    obtain ⟨state', hrun, hqueued⟩ := ih (fun f hf => hfs f (List.mem_append_right _ hf)) hcarries1
      hchars1 (Prod.ext h2.symm hrest) (by omega)
    refine ⟨state', (Runs.runOption_cons hdeliver segs).trans hrun, ?_⟩
    rw [hqueued, hqueued1, List.append_assoc, List.map_append]

/-- However the stream is cut, the frames put into the queue are the frames that were sent. -/
theorem run_deliver_chunks {state : CBUSGridConnect} (hstate : state.clientState = .csAccepted)
    (hempty : state.bufferRecv.len = 0) {chunks : List Chunk} (hchunks : ∀ c ∈ chunks, c.Valid)
    {segs : List (List UInt8)} (hcut : segs.flatten = chunks.flatMap Chunk.bytes)
    (hlen : (chunks.flatMap Chunk.bytes).length < 0xFFFF) :
    ∃ state' puts, Runs.runOption deliver state segs = some state' ∧
      state'.queued = state.queued ++ puts ∧
      puts.map CANFrame.content = (chunks.filterMap Chunk.frame?).map CANFrame.content := by
  have hfs : ∀ f ∈ chunks.filterMap Chunk.frame?, f.Encodable := by
    intro f hf
    obtain ⟨c, hc, hframe⟩ := List.mem_filterMap.mp hf
    cases c with
    | junk bytes => cases hframe
    | frame g => exact Option.some.inj hframe ▸ hchunks _ hc
  obtain ⟨state', hrun, hqueued⟩ := run_deliver hfs (Or.inl ⟨hstate, rfl⟩)
    (chars_of_len_eq_zero hempty) (hcut ▸ feed_chunks hchunks)
    (by rw [hcut, List.length_nil, Nat.zero_add]; exact hlen.le)
  refine ⟨state', _, hrun, hqueued, ?_⟩
  rw [List.map_map]
  exact List.map_congr_left fun f _ => content_overlay f {}

theorem run_deliver_chunks_cut : ∃ state' puts,
    Runs.runOption deliver (({} : CBUSGridConnect).serverAccept .errOk)
      [[0x0A] ++ [chColon, chS, 0x32], [0x34, 0x36, 0x30, chN, chSemicolon, chSemicolon]] =
        some state' ∧
      state'.queued = [] ++ puts ∧
      puts.map CANFrame.content = [({ id := 0x123 } : CANFrame).content] :=
  @run_deliver_chunks (({} : CBUSGridConnect).serverAccept .errOk) rfl rfl
    [.junk [0x0A], .frame { id := 0x123 }, .junk [chSemicolon]] (by decide) _ (by decide +kernel)
    (by decide +kernel)

end CBUSGridConnect
end CBUSPicoLib
