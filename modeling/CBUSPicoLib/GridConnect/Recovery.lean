import CBUSPicoLib.GridConnect.Decoding
import CBUSPicoLib.GridConnect.Framing

/-!
# What is left in the receive buffer

Over every history of the server, `bufferRecv` is empty or holds the beginning
of a message, and nothing faults. What is held is given up only together with a
complete message of at most 28 characters: if the next frame does not fit behind
it, the frame is dropped and the buffer stays as it is.
-/

namespace CBUSPicoLib

open DelimitedStream

namespace CBUSGridConnect

/-- A complete message is dropped if it is too long; otherwise it is decoded, at most one frame
of its length is queued, and the buffer is cleared. -/
theorem takeMessage_frame {c : List UInt8} (hc : IsFrame chColon chSemicolon c)
    (state : CBUSGridConnect) :
    (28 < c.length ∧ state.takeMessage c = some state) ∨
      (c.length ≤ 28 ∧ ∃ r : Option CANFrame, state.takeMessage c = some { state with
          queued := state.queued ++ r.toList
          bufferRecv := .empty } ∧
        ∀ g ∈ r, c.length = flagOffset g + 2 * g.len.toNat + 2) := by
  rcases Nat.lt_or_ge 28 c.length with hlong | hle
  · exact Or.inl ⟨hlong, if_neg (Nat.not_le.mpr hlong)⟩
  · obtain ⟨m, hcopy, htext⟩ := copy_spec hle state.bufferRecv
    have hlen := toNat_ofNat_length hle
    obtain ⟨body, rfl, -⟩ := hc
    have hterm : GcMessage.Terminated { m with
        len := UInt8.ofNat (chColon :: body ++ [chSemicolon]).length } := by
      refine ⟨?_, hlen.trans_le hle, ?_⟩
      · change 0 < (UInt8.ofNat _).toNat
        rw [hlen]
        simp
      · change m.byte[(UInt8.ofNat _).toNat - 1]? = _
        have hbyte := GcMessage.byte_of_text htext
        rwa [hlen, List.length_append]
    obtain ⟨r, hdecode, -, hr⟩ := decodeGC_total hterm {}
    refine Or.inr ⟨hle, r, ?_, fun g hg => hlen.symm.trans (hr g hg).len⟩
    unfold takeMessage queueMessage
    rw [if_pos hle, hcopy, Option.bind_eq_bind, Option.bind_some]
    dsimp only
    rw [if_pos (by simp), hdecode]
    rfl

/-- The receive buffer holds nothing or the beginning of a message; both buffers stay within their
bounds. -/
structure Sound (state : CBUSGridConnect) : Prop where
  recv : ∃ p, state.bufferRecv.chars = some p ∧ Pending chColon chSemicolon p
  sent : state.bufferSent.len ≤ 28

theorem chars_empty : GcMessage.empty.chars = some [] := rfl

theorem sound_init : Sound {} := ⟨⟨[], chars_empty, Or.inl rfl⟩, by decide⟩

theorem length_of_chars {m : GcMessage} {p : List UInt8} (h : m.chars = some p) :
    p.length = m.len.toNat ∧ m.len.toNat ≤ 28 := by
  unfold GcMessage.chars at h
  split_ifs at h with hle
  have hle' : m.len.toNat ≤ 28 := UInt8.le_iff_toNat_le.mp hle
  obtain rfl := Option.some.inj h
  refine ⟨?_, hle'⟩
  rw [List.length_take, Vector.length_toList]
  omega

theorem Sound.takeMessage {state : CBUSGridConnect} (h : state.Sound) {c : List UInt8}
    (hc : IsFrame chColon chSemicolon c) : ∃ state', state.takeMessage c = some state' ∧
      state'.Sound := by
  rcases takeMessage_frame hc state with ⟨-, htake⟩ | ⟨-, r, htake, -⟩
  · exact ⟨state, htake, h⟩
  · exact ⟨_, htake, ⟨[], chars_empty, Or.inl rfl⟩, h.sent⟩

theorem Sound.keep {state : CBUSGridConnect} (h : state.Sound) {t : List UInt8}
    (ht : Pending chColon chSemicolon t) : ∃ state', state.keep t = some state' ∧
      state'.Sound := by
  by_cases hnil : t = []
  · exact ⟨state, if_pos hnil, h⟩
  · rcases Nat.lt_or_ge 28 t.length with hlong | hle
    · exact ⟨state, (if_neg hnil).trans (if_neg (Nat.not_le.mpr hlong)), h⟩
    · obtain ⟨m, hkeep, hm⟩ := keep_spec hnil hle state
      exact ⟨_, hkeep, ⟨t, hm, ht⟩, h.sent⟩

theorem Sound.extractAndQueueGC {state : CBUSGridConnect} (h : state.Sound) {p : List UInt8}
    (hp : p.length ≤ 0xFFFF) : ∃ state', state.extractAndQueueGC 0 p = some state' ∧
      state'.Sound := by
  obtain ⟨hpending, hframes⟩ := @Pending.feed _ _ chColon chSemicolon [] (Or.inl rfl) (p.drop 0)
  obtain ⟨state1, htake, h1⟩ := Runs.runOption_total
    (fun s c hc hs => Sound.takeMessage hs (hframes c hc)) h
  obtain ⟨state', hkeep, h'⟩ := h1.keep hpending
  refine ⟨state', ?_, h'⟩
  rw [extractAndQueueGC_eq hp]
  exact (congrArg (Option.bind · _) htake).trans hkeep

theorem Sound.serverSend {state : CBUSGridConnect} (h : state.Sound) {msg : GcMessage}
    (hmsg : msg.len ≤ 28) (write : ErrT) : ∃ state', state.serverSend msg write = some state' ∧
      state'.Sound := by
  unfold CBUSGridConnect.serverSend GcMessage.chars
  rw [if_pos hmsg, Option.bind_eq_bind, Option.bind_some]
  cases write with
  | errOk => exact ⟨_, rfl, h.recv, h.sent⟩
  | errMem => exact ⟨_, rfl, h.recv, hmsg⟩
  | errOther => exact ⟨_, rfl, h.recv, h.sent⟩

/-- The length of a segment that fits behind a full receive buffer. TCP delivers at most its
receive window, which is smaller. -/
def Event.Fits : Event → Prop
  | .recv (some p) _ _ => p.length + 28 ≤ 0xFFFF
  | _ => True

instance : DecidablePred Event.Fits
  | .recv (some p) _ _ => inferInstanceAs (Decidable (p.length + 28 ≤ 0xFFFF))
  | .recv none _ _ => .isTrue trivial
  | .accept _ => .isTrue trivial
  | .sent _ => .isTrue trivial
  | .poll _ => .isTrue trivial
  | .err _ => .isTrue trivial
  | .send _ _ => .isTrue trivial

theorem Sound.serverRecv {state : CBUSGridConnect} (h : state.Sound) {p : List UInt8}
    (hp : p.length + 28 ≤ 0xFFFF) (err write : ErrT) :
    ∃ state', state.serverRecv (some p) err write = some state' ∧ state'.Sound := by
  unfold CBUSGridConnect.serverRecv
  dsimp only
  by_cases herr : err ≠ .errOk
  · rw [if_pos herr]
    exact ⟨_, rfl, h.recv, (by decide : (0 : UInt8) ≤ 28)⟩
  · rw [if_neg herr]
    have hopen : Sound { state with clientState := .csReceived } := ⟨h.recv, h.sent⟩
    cases hstate : state.clientState with
    | csNone => exact ⟨state, rfl, h⟩
    | csClosing => exact ⟨state, rfl, h⟩
    | csAccepted =>
      dsimp only
      split_ifs
      · exact hopen.extractAndQueueGC (by omega)
      · exact ⟨_, rfl, hopen⟩
    | csReceived =>
      dsimp only
      split_ifs
      · obtain ⟨q, hchars, -⟩ := h.recv
        obtain ⟨hlen, hle⟩ := length_of_chars hchars
        rw [hchars, Option.bind_eq_bind, Option.bind_some, pbufCat, if_pos (by omega),
          Option.bind_some]
        exact h.extractAndQueueGC (by rw [List.length_append]; omega)
      · exact h.extractAndQueueGC (by omega)
      · exact ⟨state, rfl, h⟩

/-- Whatever happens to the server, nothing faults and the buffers stay sound. -/
theorem Sound.step {state : CBUSGridConnect} (h : state.Sound) {e : Event} (he : e.Fits) :
    ∃ state', state.step e = some state' ∧ state'.Sound := by
  cases e with
  | accept err =>
    refine ⟨_, rfl, ?_⟩
    unfold serverAccept serverShutdown serverCloseConn
    split_ifs <;> exact ⟨h.recv, h.sent⟩
  | recv p err write =>
    cases p with
    | some p => exact h.serverRecv he err write
    | none =>
      have hclosing : Sound { state with clientState := .csClosing } := ⟨h.recv, h.sent⟩
      unfold CBUSGridConnect.step CBUSGridConnect.serverRecv
      dsimp only
      split_ifs
      · exact ⟨_, rfl, h.recv, h.sent⟩
      · exact hclosing.serverSend h.sent write
  | sent len =>
    refine ⟨_, rfl, ?_⟩
    unfold serverSent
    dsimp only
    split_ifs
    · exact ⟨h.recv, (by decide : (0 : UInt8) ≤ 28)⟩
    · exact ⟨h.recv, h.sent⟩
  | poll write =>
    unfold CBUSGridConnect.step serverPoll
    dsimp only
    split_ifs
    · exact h.serverSend h.sent write
    · exact ⟨_, rfl, h.recv, h.sent⟩
    · exact ⟨state, rfl, h⟩
  | err aborted =>
    refine ⟨_, rfl, ?_⟩
    unfold serverErr serverShutdown serverCloseConn
    split_ifs <;> exact ⟨h.recv, h.sent⟩
  | send msg write =>
    unfold CBUSGridConnect.step sendCANFrame
    by_cases hmsg : msg.Encodable
    · obtain ⟨m, hencode, -, hlen⟩ := encodeGC_text hmsg
      have hm : m.len ≤ 28 := by
        rw [UInt8.le_iff_toNat_le, hlen]
        exact length_gcText_le hmsg.len
      dsimp only
      rw [hencode, Option.bind_eq_bind, Option.bind_some]
      dsimp only
      split_ifs
      · exact h.serverSend hm write
      · exact ⟨state, rfl, h⟩
    · dsimp only
      rw [encodeGC_refused hmsg]
      exact ⟨state, rfl, h⟩

/-- Each segment queues exactly the frame whose string it is. -/
def PutsEach (state : CBUSGridConnect) : List CANFrame → Prop
  | [] => True
  | f :: fs => ∃ state' g, state.deliver f.encoded = some state' ∧
      state'.queued = state.queued ++ [g] ∧ g.content = f.content ∧ PutsEach state' fs

/-- Whatever becomes of the first frame, all others are queued. -/
def Recovers (state : CBUSGridConnect) (f : CANFrame) (fs : List CANFrame) : Prop :=
  ∃ state', state.deliver f.encoded = some state' ∧ PutsEach state' fs

/-- A client is connected and can send data. -/
def Open (state : CBUSGridConnect) : Prop :=
  state.pClientCB = true ∧
    (state.clientState = .csAccepted ∨ state.clientState = .csReceived)

theorem feed_encoded {f : CANFrame} (hf : f.Encodable) {p : List UInt8} (hp : p ≠ []) :
    feed chColon chSemicolon p f.encoded = ([p ++ f.encoded], []) := by
  obtain ⟨body, hbody, hstop⟩ := gcText_isFrame f
  have hcons : chSemicolon ∉ chColon :: body := by
    rw [List.mem_cons, not_or]
    exact ⟨by decide, hstop⟩
  rw [encoded_eq hf, hbody, feed_append, feed_inside hp hcons,
    feed_cons (advance_stop (by simp)), feed_nil]
  simp

theorem length_encoded_bounds {f : CANFrame} (hf : f.Encodable) :
    8 ≤ f.encoded.length ∧ f.encoded.length ≤ 28 := by
  rw [encoded_eq hf]
  refine ⟨?_, length_gcText_le hf.len⟩
  rw [length_gcText hf.len]
  unfold flagOffset
  split_ifs <;> omega

theorem encoded_ne_nil {f : CANFrame} (hf : f.Encodable) : f.encoded ≠ [] := by
  intro hnil
  have hlen := (length_encoded_bounds hf).1
  rw [hnil] at hlen
  exact absurd hlen (by decide)

theorem deliver_encoded {state : CBUSGridConnect} (h : state.Carries []) {f : CANFrame}
    (hf : f.Encodable) : ∃ state', state.deliver f.encoded = some state' ∧
      state'.queued = state.queued ++ [overlay f {}] ∧ state'.Carries [] := by
  have hlen := (length_encoded_bounds hf).2
  have hdeliver : state.deliver f.encoded = some { state with
      clientState := .csReceived
      queued := state.queued ++ [overlay f {}]
      bufferRecv := .empty } := by
    rw [deliver_eq h (encoded_ne_nil hf) (by rw [List.length_nil]; omega), encoded_eq hf,
      feed_gcText]
    dsimp only
    rw [List.foldlM_cons, takeMessage_text hf]
    rfl
  exact ⟨_, hdeliver, rfl, Or.inr ⟨rfl, chars_empty, Or.inl rfl⟩⟩

theorem putsEach_of_carries_nil {state : CBUSGridConnect} (h : state.Carries [])
    {fs : List CANFrame} (hfs : ∀ f ∈ fs, f.Encodable) : state.PutsEach fs := by
  induction fs generalizing state with
  | nil => trivial
  | cons f fs ih =>
    obtain ⟨state', hdeliver, hqueued, hcarries⟩ := deliver_encoded h (hfs f List.mem_cons_self)
    exact ⟨state', overlay f {}, hdeliver, hqueued, content_overlay f {},
      ih hcarries fun g hg => hfs g (List.mem_cons_of_mem _ hg)⟩

/-- With the beginning of a message carried, the frame is taken together with it. -/
theorem deliver_encoded_behind {state : CBUSGridConnect} {p : List UInt8} (h : state.Carries p)
    (hp : p ≠ []) (hlen : p.length ≤ 28) {f : CANFrame} (hf : f.Encodable) :
    state.deliver f.encoded = state.takeMessage (p ++ f.encoded) ∧
      IsFrame chColon chSemicolon (p ++ f.encoded) := by
  have hbound := (length_encoded_bounds hf).2
  have hfeed := feed_encoded hf hp
  have hself : { state with clientState := ClientState.csReceived } = state := by
    rcases h with ⟨-, hnil⟩ | ⟨hstate, -, -⟩
    · exact absurd hnil hp
    · rw [← hstate]
  constructor
  · rw [deliver_eq h (encoded_ne_nil hf) (by omega), hfeed, hself]
    change (state.takeMessage (p ++ f.encoded) >>= fun s => some s).bind (fun s => some s) = _
    cases state.takeMessage (p ++ f.encoded) <;> rfl
  · have hframes := (h.pending.feed f.encoded).2
    rw [hfeed] at hframes
    exact hframes _ (List.mem_singleton_self _)

theorem deliver_too_long {state : CBUSGridConnect} {p : List UInt8} (h : state.Carries p)
    (hp : p ≠ []) (hlen : p.length ≤ 28) {f : CANFrame} (hf : f.Encodable)
    (hlong : 28 < p.length + f.encoded.length) : state.deliver f.encoded = some state := by
  obtain ⟨hdeliver, -⟩ := deliver_encoded_behind h hp hlen hf
  rw [hdeliver]
  exact if_neg (by rw [List.length_append]; omega)

/-- Behind the beginning of a message no frame is queued as it was sent. -/
theorem not_put_behind {state : CBUSGridConnect} {p : List UInt8} (h : state.Carries p)
    (hp : p ≠ []) (hlen : p.length ≤ 28) {f : CANFrame} (hf : f.Encodable) (fs : List CANFrame) :
    ¬ state.PutsEach (f :: fs) := by
  rintro ⟨state', g, hdeliver, hqueued, hcontent, -⟩
  obtain ⟨htake, hframe⟩ := deliver_encoded_behind h hp hlen hf
  rw [htake] at hdeliver
  rcases takeMessage_frame hframe state with ⟨-, hsame⟩ | ⟨-, r, hput, hr⟩
  · rw [hsame] at hdeliver
    obtain rfl := Option.some.inj hdeliver
    exact absurd hqueued (by simp)
  · rw [hput] at hdeliver
    obtain rfl := Option.some.inj hdeliver
    have hrg : r.toList = [g] := List.append_cancel_left hqueued
    have hlength := hr g (Option.mem_toList.mp (hrg ▸ List.mem_singleton_self g))
    -- a frame with the same content has a text of the same length, without what was carried
    have hext : g.ext = f.ext := congrArg (fun c => c.2.1) hcontent
    have hglen : g.len = f.len := congrArg (fun c => c.2.2.2.1) hcontent
    have hoffset : flagOffset g = flagOffset f := by
      unfold flagOffset
      rw [hext]
    have hpos := List.length_pos_iff.mpr hp
    rw [List.length_append, encoded_eq hf, length_gcText hf.len, hoffset, hglen] at hlength
    omega

theorem Open.carries {state : CBUSGridConnect} (hopen : state.Open)
    (hstate : state.clientState ≠ .csAccepted) {p : List UInt8}
    (hchars : state.bufferRecv.chars = some p) (hp : Pending chColon chSemicolon p) :
    state.Carries p :=
  Or.inr ⟨hopen.2.resolve_left hstate, hchars, hp⟩

/-- What decides about recovery is whether the first frame completes a message that fits. -/
theorem Sound.recovers_iff_fits {state : CBUSGridConnect} (h : state.Sound) (hopen : state.Open)
    {f : CANFrame} (hf : f.Encodable) {fs : List CANFrame} (hfs : ∀ g ∈ fs, g.Encodable) :
    state.Recovers f fs ↔ fs = [] ∨ state.clientState = .csAccepted ∨
      state.bufferRecv.len = 0 ∨ state.bufferRecv.len.toNat + f.encoded.length ≤ 28 := by
  have hfresh (hnil : state.Carries []) : state.Recovers f fs := by
    obtain ⟨state', hdeliver, -, hcarries⟩ := deliver_encoded hnil hf
    exact ⟨state', hdeliver, putsEach_of_carries_nil hcarries hfs⟩
  by_cases hstate : state.clientState = .csAccepted
  · exact iff_of_true (hfresh (Or.inl ⟨hstate, rfl⟩)) (Or.inr (Or.inl hstate))
  obtain ⟨p, hchars, hpending⟩ := h.recv
  have hcarries := hopen.carries hstate hchars hpending
  obtain ⟨hlen, hle⟩ := length_of_chars hchars
  by_cases hp : p = []
  · subst hp
    have hzero : state.bufferRecv.len = 0 := UInt8.toNat_inj.mp hlen.symm
    exact iff_of_true (hfresh hcarries) (Or.inr (Or.inr (Or.inl hzero)))
  have hpos : state.bufferRecv.len ≠ 0 := by
    intro hzero
    rw [hzero] at hlen
    exact hp (List.eq_nil_of_length_eq_zero hlen)
  obtain ⟨hdeliver, hframe⟩ := deliver_encoded_behind hcarries hp (by omega) hf
  rcases takeMessage_frame hframe state with ⟨hlong, hsame⟩ | ⟨hfits, r, hput, -⟩
  · -- the first frame leaves everything as it is, and the second one meets the same buffer
    rw [List.length_append, hlen] at hlong
    constructor
    · rintro ⟨state', hfirst, hputs⟩
      rw [hdeliver, hsame] at hfirst
      obtain rfl := Option.some.inj hfirst
      cases fs with
      | nil => exact Or.inl rfl
      | cons g fs =>
        exact absurd hputs (not_put_behind hcarries hp (by omega) (hfs g List.mem_cons_self) fs)
    · rintro (rfl | hacc | hzero | hfits)
      · exact ⟨state, hdeliver.trans hsame, trivial⟩
      · exact absurd hacc hstate
      · exact absurd hzero hpos
      · exact absurd hfits (Nat.not_le.mpr hlong)
  · rw [List.length_append, hlen] at hfits
    have hnil : Carries { state with
        queued := state.queued ++ r.toList
        bufferRecv := .empty } [] :=
      Or.inr ⟨hopen.2.resolve_left hstate, chars_empty, Or.inl rfl⟩
    exact iff_of_true ⟨_, hdeliver.trans hput, putsEach_of_carries_nil hnil hfs⟩
      (Or.inr (Or.inr (Or.inr hfits)))

/-- Over every history of the server: it never faults, and while a client is connected, it loses
no frame but the first exactly if the condition holds. -/
theorem run_recovers_iff {es : List Event} (hes : ∀ e ∈ es, e.Fits) {f : CANFrame}
    (hf : f.Encodable) {fs : List CANFrame} (hfs : ∀ g ∈ fs, g.Encodable) :
    ∃ state, Runs.runOption step {} es = some state ∧ (state.Open →
      (state.Recovers f fs ↔ fs = [] ∨ state.clientState = .csAccepted ∨
        state.bufferRecv.len = 0 ∨ state.bufferRecv.len.toNat + f.encoded.length ≤ 28)) := by
  obtain ⟨state, hrun, hsound⟩ := Runs.runOption_total
    (fun s e he hs => Sound.step hs (hes e he)) sound_init
  exact ⟨state, hrun, fun hopen => hsound.recovers_iff_fits hopen hf hfs⟩

theorem run_recovers_iff_short : ∃ state, Runs.runOption step {}
      [.accept .errOk, .recv (some [chColon, chS, 0x32, 0x34]) .errOk .errOk] = some state ∧
    (state.Open → (state.Recovers {} [{ id := 0x123 }] ↔
      [({ id := 0x123 } : CANFrame)] = [] ∨ state.clientState = .csAccepted ∨
        state.bufferRecv.len = 0 ∨
        state.bufferRecv.len.toNat + ({} : CANFrame).encoded.length ≤ 28)) :=
  run_recovers_iff (by decide) (by decide) (by decide)

/-- With more than 20 characters in the buffer no frame ever changes anything. -/
theorem run_deliver_stuck {state : CBUSGridConnect} (h : state.Sound)
    (hstate : state.clientState = .csReceived) (hlen : 20 < state.bufferRecv.len.toNat)
    {fs : List CANFrame} (hfs : ∀ f ∈ fs, f.Encodable) :
    Runs.runOption deliver state (fs.map CANFrame.encoded) = some state := by
  obtain ⟨p, hchars, hpending⟩ := h.recv
  obtain ⟨hlength, hle⟩ := length_of_chars hchars
  have hp : p ≠ [] := by
    rintro rfl
    rw [List.length_nil] at hlength
    omega
  refine Runs.runOption_fixed fun seg hseg => ?_
  obtain ⟨f, hf, rfl⟩ := List.mem_map.mp hseg
  have hbound := (length_encoded_bounds (hfs f hf)).1
  exact deliver_too_long (Or.inr ⟨hstate, hchars, hpending⟩) hp (by omega) (hfs f hf) (by omega)

theorem deliver_begun {state : CBUSGridConnect} (h : state.Carries []) {body : List UInt8}
    (hbody : chSemicolon ∉ body) (hlen : body.length < 28) :
    ∃ m : GcMessage, state.deliver (chColon :: body) =
        some { state with clientState := .csReceived, bufferRecv := m } ∧
      m.chars = some (chColon :: body) := by
  have hbegin : feed chColon chSemicolon [] ([] ++ chColon :: body) = ([], chColon :: body) :=
    feed_begin List.not_mem_nil hbody
  obtain ⟨m, hkeep, hm⟩ := keep_spec (List.cons_ne_nil chColon body) hlen
    { state with clientState := .csReceived }
  refine ⟨m, ?_, hm⟩
  rw [deliver_eq h (List.cons_ne_nil _ _) (by simp only [List.length_nil, List.length_cons]; omega)]
  rw [List.nil_append] at hbegin
  rw [hbegin]
  exact hkeep

/-- The first 28 characters of an over-long message stay in the buffer, and every frame behind
them is lost. -/
theorem not_recovers_overlong : ∃ state, Runs.runOption step {}
      [.accept .errOk, .recv (some (chColon :: List.replicate 27 0x41)) .errOk .errOk] =
        some state ∧
    state.Open ∧ ¬ state.Recovers {} [{}] ∧
    ∀ fs : List CANFrame, (∀ f ∈ fs, f.Encodable) →
      Runs.runOption deliver state (fs.map CANFrame.encoded) = some state := by
  obtain ⟨m, hdeliver, hm⟩ := @deliver_begun (serverAccept {} .errOk) (Or.inl ⟨rfl, rfl⟩)
    (List.replicate 27 0x41) (by decide) (by decide)
  have hlen : m.len.toNat = 28 := (length_of_chars hm).1.symm
  have hpending : Pending chColon chSemicolon (chColon :: List.replicate 27 0x41) :=
    Or.inr ⟨_, rfl, by decide⟩
  generalize hstate : { serverAccept {} .errOk with
    clientState := .csReceived
    bufferRecv := m } = state at hdeliver
  have hrecv : state.bufferRecv = m := by rw [← hstate]
  have hreceived : state.clientState = .csReceived := by rw [← hstate]
  have hclient : state.pClientCB = true := by rw [← hstate]; rfl
  have hsound : state.Sound := by
    refine ⟨⟨_, hrecv ▸ hm, hpending⟩, ?_⟩
    rw [← hstate]
    exact (by decide : (0 : UInt8) ≤ 28)
  have hfull : state.bufferRecv.len.toNat = 28 := by rw [hrecv, hlen]
  have hstep : (serverAccept {} .errOk).step
      (.recv (some (chColon :: List.replicate 27 0x41)) .errOk .errOk) = some state := hdeliver
  refine ⟨state, (Runs.runOption_cons rfl _).trans (Runs.runOption_cons hstep _),
    ⟨hclient, Or.inr hreceived⟩, ?_, fun fs hfs => ?_⟩
  · rw [hsound.recovers_iff_fits ⟨hclient, Or.inr hreceived⟩ (by decide) (by decide), hreceived,
      hfull, ← UInt8.toNat_inj, hfull]
    rintro (hnil | hacc | hzero | hfits)
    · exact absurd hnil (List.cons_ne_nil _ _)
    · exact absurd hacc (by decide)
    · exact absurd hzero (by decide)
    · have h8 := (@length_encoded_bounds {} (by decide)).1
      omega
  · exact run_deliver_stuck hsound hreceived (by omega) hfs

end CBUSGridConnect
end CBUSPicoLib
