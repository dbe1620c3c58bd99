import RustProxy.Bridge.System

/-!
# Fidelity of a tunnelled connection

The bytes of a direction are in four places: written, taken off the queue and not yet written, on
the queue, read and not yet on the queue.

* `Flow` is the invariant of a direction: as long as the destination bridge runs, the four parts in
  this order make up what was read from the source; the marker is sent only after the end of the
  source, it is the last message of the queue, and no other message is empty.
* `Flow.feed` and `Flow.drain` are its step lemmas, one case for each move of the bridge at the
  source and at the destination.
* `Orderly` is the invariant of a direction in runs without errors in which the destination's stream
  stays open.
-/

namespace RustProxy.Bridge

open RustProxy.Proto Transition

variable (connId : UInt64)

/-- The bytes a bridge has read and not handed to the tunnel. -/
def Pc.unsent : Pc → Bytes
  | .sending data => data
  | _ => []

/-- The bytes a bridge has taken off the tunnel and its stream has not accepted. -/
def Pc.unwritten : Pc → Bytes
  | .writing _ rest => rest
  | _ => []

/-- The bridge has no more to say to the tunnel. -/
def Pc.Done : Pc → Prop
  | .closing => True
  | .ended => True
  | _ => False

/-- The queue is a list of non-empty chunks, and everything that was read is accounted for unless
the source bridge has given up. -/
structure Open (src dst : Pc) (d : Direction) (chunks : List Bytes) : Prop where
  queue_eq : d.queue = chunks.map (chunk connId)
  dst_ne : dst ≠ .shuttingDown
  isPrefix : d.put ++ dst.unwritten ++ chunks.flatten ++ src.unsent <+: d.got
  all_of_running : src ≠ .ended → d.put ++ dst.unwritten ++ chunks.flatten ++ src.unsent = d.got

/-- The marker is on the queue, behind everything that was read. -/
structure Marked (src dst : Pc) (d : Direction) (chunks : List Bytes) : Prop where
  queue_eq : d.queue = chunks.map (chunk connId) ++ [chunk connId []]
  dst_ne : dst ≠ .shuttingDown
  src_done : src.Done
  eof : d.eof = true
  all : d.put ++ dst.unwritten ++ chunks.flatten = d.got

/-- The destination has taken the marker off, after everything that was read. -/
structure Delivered (src : Pc) (d : Direction) : Prop where
  src_done : src.Done
  eof : d.eof = true
  all : d.put = d.got

/-- The invariant of a direction. -/
structure Flow (src dst : Pc) (d : Direction) : Prop where
  sending_ne : ∀ data, src = .sending data → data ≠ []
  close_eof : src = .sendingClose → d.eof = true
  put_prefix : d.put <+: d.got
  shut : d.shut = true → dst = .ended ∧ Delivered src d
  transit : dst ≠ .ended →
    (∃ chunks, [] ∉ chunks ∧ (Open connId src dst d chunks ∨ Marked connId src dst d chunks)) ∨
      dst = .shuttingDown ∧ Delivered src d

variable {connId} {src src' dst dst' : Pc} {d : Direction} {event : Event}

/-- Nothing is lost as long as the four parts make up what was read. -/
lemma Open.of_all {chunks : List Bytes} (hqueue : d.queue = chunks.map (chunk connId))
    (hdst : dst ≠ .shuttingDown)
    (hall : d.put ++ dst.unwritten ++ chunks.flatten ++ src.unsent = d.got) :
    Open connId src dst d chunks where
  queue_eq := hqueue
  dst_ne := hdst
  isPrefix := ⟨[], by rw [List.append_nil, hall]⟩
  all_of_running := fun _ => hall

/-- Nothing has been read or written at the start. -/
lemma Flow.start : Flow connId .select .select .start where
  sending_ne := by simp
  close_eof := by simp
  put_prefix := List.prefix_refl []
  shut := by simp [Direction.start]
  transit := fun _ => Or.inl ⟨[], by simp, Or.inl (.of_all rfl (by simp) rfl)⟩

/-! ## Steps at the source -/

/-- The source bridge moves without touching the direction. -/
lemma Flow.src_step (h : Flow connId src dst d) (hdone : src.Done → src'.Done)
    (hunsent : src'.unsent <+: src.unsent)
    (hrun : src' ≠ .ended → src ≠ .ended ∧ src'.unsent = src.unsent)
    (hsending : ∀ data, src' = .sending data → data ≠ [])
    (hclose : src' = .sendingClose → d.eof = true) : Flow connId src' dst d where
  sending_ne := hsending
  close_eof := hclose
  put_prefix := h.put_prefix
  shut := fun hshut => ⟨(h.shut hshut).1, { (h.shut hshut).2 with
    src_done := hdone (h.shut hshut).2.src_done }⟩
  transit := by
    intro hdst
    rcases h.transit hdst with ⟨chunks, hne, hopen | hmarked⟩ | ⟨hdown, hdel⟩
    · refine Or.inl ⟨chunks, hne, Or.inl { hopen with isPrefix := ?_, all_of_running := ?_ }⟩
      · exact ((List.prefix_append_right_inj _).mpr hunsent).trans hopen.isPrefix
      · intro hsrc
        obtain ⟨hrunning, heq⟩ := hrun hsrc
        rw [heq]
        exact hopen.all_of_running hrunning
    · exact Or.inl ⟨chunks, hne, Or.inr { hmarked with src_done := hdone hmarked.src_done }⟩
    · exact Or.inr ⟨hdown, { hdel with src_done := hdone hdel.src_done }⟩

/-- The source bridge moves between two awaits at which it holds no unsent bytes. -/
lemma Flow.src_idle (h : Flow connId src dst d) (hdone : ¬ src.Done) (hsrc : src.unsent = [])
    (hsrc' : src'.unsent = []) (hsending : ∀ data, src' ≠ .sending data)
    (hclose : src' = .sendingClose → d.eof = true) : Flow connId src' dst d := by
  refine h.src_step (fun hd => absurd hd hdone) ?_ (fun _ => ⟨?_, ?_⟩)
    (fun data hd => absurd hd (hsending data)) hclose
  · rw [hsrc']
    exact List.nil_prefix
  · rintro rfl
    exact hdone trivial
  · rw [hsrc, hsrc']

/-- The end of the source is noticed. -/
lemma Flow.setEof (h : Flow connId src dst d) : Flow connId src dst { d with eof := true } where
  sending_ne := h.sending_ne
  close_eof := fun _ => rfl
  put_prefix := h.put_prefix
  shut := fun hshut => ⟨(h.shut hshut).1, { (h.shut hshut).2 with eof := rfl }⟩
  transit := by
    intro hdst
    rcases h.transit hdst with ⟨chunks, hne, hopen | hmarked⟩ | ⟨hdown, hdel⟩
    · exact Or.inl ⟨chunks, hne, Or.inl { hopen with }⟩
    · exact Or.inl ⟨chunks, hne, Or.inr { hmarked with eof := rfl }⟩
    · exact Or.inr ⟨hdown, { hdel with eof := rfl }⟩

/-- While the source bridge is not done, the direction is open. -/
lemma Flow.open_of_not_done (h : Flow connId src dst d) (hdone : ¬ src.Done) (hdst : dst ≠ .ended) :
    ∃ chunks, [] ∉ chunks ∧ Open connId src dst d chunks := by
  rcases h.transit hdst with ⟨chunks, hne, hopen | hmarked⟩ | ⟨-, hdel⟩
  · exact ⟨chunks, hne, hopen⟩
  · exact absurd hmarked.src_done hdone
  · exact absurd hdel.src_done hdone

/-- A chunk is read. -/
lemma Flow.readChunk (h : Flow connId .select dst d) {data : Bytes} (hdata : data ≠ []) :
    Flow connId (.sending data) dst { d with got := d.got ++ data } where
  sending_ne := by
    rintro _ ⟨rfl⟩
    exact hdata
  close_eof := by simp
  put_prefix := h.put_prefix.trans (List.prefix_append d.got data)
  shut := fun hshut => absurd (h.shut hshut).2.src_done id
  transit := by
    intro hdst
    obtain ⟨chunks, hne, hopen⟩ := h.open_of_not_done id hdst
    have hall : d.put ++ dst.unwritten ++ chunks.flatten = d.got := by
      simpa [Pc.unsent] using hopen.all_of_running (by simp)
    have hall' : d.put ++ dst.unwritten ++ chunks.flatten ++ data = d.got ++ data := by
      rw [hall]
    exact Or.inl ⟨chunks, hne, Or.inl (.of_all hopen.queue_eq hopen.dst_ne hall')⟩

/-- A chunk goes onto the queue. -/
lemma Flow.enqueue {data : Bytes} (h : Flow connId (.sending data) dst d) :
    Flow connId .select dst { d with queue := d.queue ++ [chunk connId data] } where
  sending_ne := by simp
  close_eof := by simp
  put_prefix := h.put_prefix
  shut := fun hshut => absurd (h.shut hshut).2.src_done id
  transit := by
    intro hdst
    obtain ⟨chunks, hne, hopen⟩ := h.open_of_not_done id hdst
    have hall :
        d.put ++ dst.unwritten ++ (chunks ++ [data]).flatten ++ Pc.unsent .select = d.got := by
      simpa [Pc.unsent] using hopen.all_of_running (by simp)
    refine Or.inl ⟨chunks ++ [data], ?_, Or.inl ?_⟩
    · have hdata := h.sending_ne data rfl
      simp [hne, hdata.symm]
    · refine .of_all ?_ hopen.dst_ne hall
      rw [hopen.queue_eq, List.map_append, List.map_singleton]

/-- The marker goes onto the queue. -/
lemma Flow.enqueueMarker (h : Flow connId .sendingClose dst d) :
    Flow connId .closing dst { d with queue := d.queue ++ [chunk connId []] } where
  sending_ne := by simp
  close_eof := by simp
  put_prefix := h.put_prefix
  shut := fun hshut => absurd (h.shut hshut).2.src_done id
  transit := by
    intro hdst
    obtain ⟨chunks, hne, hopen⟩ := h.open_of_not_done id hdst
    have hall : d.put ++ dst.unwritten ++ chunks.flatten = d.got := by
      simpa [Pc.unsent] using hopen.all_of_running (by simp)
    refine Or.inl ⟨chunks, hne, Or.inr ?_⟩
    exact { queue_eq := by rw [hopen.queue_eq], dst_ne := hopen.dst_ne, src_done := trivial,
            eof := h.close_eof rfl, all := hall }

/-- A move of the source bridge keeps the invariant. -/
theorem Flow.feed (h : Flow connId src dst d) (hmove : Move src event src') :
    Flow connId src' dst (d.feed connId src event) := by
  cases hmove with
  | readEof =>
      have heof : Flow connId .sendingClose dst _ :=
        h.setEof.src_idle id rfl rfl (by simp) (fun _ => rfl)
      simpa [Direction.feed] using heof
  | @readChunk data hne =>
      have hempty : data.isEmpty = false := List.isEmpty_eq_false_iff.mpr hne
      simpa [Direction.feed, hempty] using h.readChunk hne
  | sent data => exact h.enqueue
  | sentClose => exact h.enqueueMarker
  | sendFailed data queued =>
      cases queued with
      | true => exact h.enqueue.src_idle id rfl rfl (by simp) (by simp)
      | false =>
          exact h.src_step (fun hd => absurd hd id) List.nil_prefix (by simp) (by simp) (by simp)
  | sendCloseFailed queued =>
      cases queued with
      | true => exact h.enqueueMarker
      | false => exact h.src_idle id rfl rfl (by simp) (by simp)
  | closed =>
      exact h.src_step (fun _ => trivial) (List.prefix_refl []) (by simp) (by simp) (by simp)
  | readErr => exact h.src_idle id rfl rfl (by simp) (by simp)
  | nextMarker => exact h.src_idle id rfl rfl (by simp) (by simp)
  | nextData => exact h.src_idle id rfl rfl (by simp) (by simp)
  | nextControl => exact h
  | nextErr => exact h.src_idle id rfl rfl (by simp) (by simp)
  | nextNone => exact h.src_idle id rfl rfl (by simp) (by simp)
  | wroteAll => exact h.src_idle id rfl rfl (by simp) (by simp)
  | wrotePart => exact h.src_idle id rfl rfl (by simp) (by simp)
  | writeFailed => exact h.src_idle id rfl rfl (by simp) (by simp)
  | shutDown => exact h.src_idle id rfl rfl (by simp) (by simp)

/-! ## Steps at the destination -/

/-- The destination bridge moves between two awaits at which it has no unwritten bytes. -/
lemma Flow.dst_idle (h : Flow connId src dst d) (hdst : dst ≠ .ended) (hdown : dst ≠ .shuttingDown)
    (hdown' : dst' ≠ .shuttingDown) (hunwritten : dst'.unwritten = dst.unwritten) :
    Flow connId src dst' d where
  sending_ne := h.sending_ne
  close_eof := h.close_eof
  put_prefix := h.put_prefix
  shut := fun hshut => absurd (h.shut hshut).1 hdst
  transit := by
    intro _
    rcases h.transit hdst with ⟨chunks, hne, hopen | hmarked⟩ | ⟨hdown, -⟩
    · refine Or.inl ⟨chunks, hne, Or.inl ?_⟩
      exact { queue_eq := hopen.queue_eq, dst_ne := hdown',
              isPrefix := by rw [hunwritten]; exact hopen.isPrefix,
              all_of_running := by rw [hunwritten]; exact hopen.all_of_running }
    · refine Or.inl ⟨chunks, hne, Or.inr ?_⟩
      exact { hmarked with dst_ne := hdown', all := by rw [hunwritten]; exact hmarked.all }
    · contradiction

/-- The destination bridge gives up. -/
lemma Flow.dst_ended (h : Flow connId src dst d) : Flow connId src .ended d :=
  { h with
    shut := fun hshut => ⟨rfl, (h.shut hshut).2⟩
    transit := fun hne => absurd rfl hne }

/-- The first message is taken off the queue and is the marker. -/
lemma Flow.nextMarker {id : UInt64} (h : Flow connId src .select d)
    (hhead : d.queue.head? = some (.data ⟨id, []⟩)) :
    Flow connId src .shuttingDown { d with queue := d.queue.tail } where
  sending_ne := h.sending_ne
  close_eof := h.close_eof
  put_prefix := h.put_prefix
  shut := fun hshut => absurd (h.shut hshut).1 (by simp)
  transit := by
    intro _
    rcases h.transit (by simp) with ⟨chunks, hne, hopen | hmarked⟩ | ⟨hdown, -⟩
    · exfalso
      rw [hopen.queue_eq] at hhead
      cases chunks with
      | nil => simp at hhead
      | cons c cs => simp_all [chunk]
    · cases chunks with
      | nil =>
          refine Or.inr ⟨rfl, ?_⟩
          have hall : d.put = d.got := by
            simpa [Pc.unwritten] using hmarked.all
          exact { src_done := hmarked.src_done, eof := hmarked.eof, all := hall }
      | cons c cs =>
          exfalso
          rw [hmarked.queue_eq] at hhead
          simp_all [chunk]
    · cases hdown

/-- The first message is taken off the queue and is a chunk. -/
lemma Flow.nextData {id : UInt64} {data : Bytes} (h : Flow connId src .select d)
    (hdata : data ≠ []) (hhead : d.queue.head? = some (.data ⟨id, data⟩)) :
    Flow connId src (.writing data.length data) { d with queue := d.queue.tail } where
  sending_ne := h.sending_ne
  close_eof := h.close_eof
  put_prefix := h.put_prefix
  shut := fun hshut => absurd (h.shut hshut).1 (by simp)
  transit := by
    intro _
    rcases h.transit (by simp) with ⟨chunks, hne, hopen | hmarked⟩ | ⟨hdown, -⟩
    · cases chunks with
      | nil =>
          rw [hopen.queue_eq] at hhead
          simp at hhead
      | cons c cs =>
          have hc : c = data := by
            rw [hopen.queue_eq] at hhead
            simp_all [chunk]
          subst hc
          refine Or.inl ⟨cs, List.not_mem_of_not_mem_cons hne, Or.inl ?_⟩
          exact { queue_eq := by simp [hopen.queue_eq], dst_ne := by simp,
                  isPrefix := by simpa [Pc.unwritten] using hopen.isPrefix,
                  all_of_running := by simpa [Pc.unwritten] using hopen.all_of_running }
    · cases chunks with
      | nil =>
          rw [hmarked.queue_eq] at hhead
          simp_all [chunk]
      | cons c cs =>
          have hc : c = data := by
            rw [hmarked.queue_eq] at hhead
            simp_all [chunk]
          subst hc
          refine Or.inl ⟨cs, List.not_mem_of_not_mem_cons hne, Or.inr ?_⟩
          exact { queue_eq := by simp [hmarked.queue_eq], dst_ne := by simp,
                  src_done := hmarked.src_done, eof := hmarked.eof,
                  all := by simpa [Pc.unwritten] using hmarked.all }
    · cases hdown

/-- Every message of the queue is a data message. -/
lemma Flow.head_ne_control {ctrl : ControlMessage} (h : Flow connId src .select d) :
    d.queue.head? ≠ some (.control ctrl) := by
  intro hhead
  rcases h.transit (by simp) with ⟨chunks, hne, hopen | hmarked⟩ | ⟨hdown, -⟩
  · rw [hopen.queue_eq] at hhead
    cases chunks <;> simp_all [chunk]
  · rw [hmarked.queue_eq] at hhead
    cases chunks <;> simp_all [chunk]
  · cases hdown

/-- What has been written and what is about to be written was read, in this order. -/
lemma Flow.put_unwritten_prefix (h : Flow connId src dst d) (hdst : dst ≠ .ended)
    (hdown : dst ≠ .shuttingDown) : d.put ++ dst.unwritten <+: d.got := by
  rcases h.transit hdst with ⟨chunks, -, hopen | hmarked⟩ | ⟨hdown', -⟩
  · have hstart := hopen.isPrefix
    rw [List.append_assoc] at hstart
    exact (List.prefix_append _ _).trans hstart
  · rw [← hmarked.all]
    exact List.prefix_append _ _
  · exact absurd hdown' hdown

/-- The destination stream takes the first `k` of the unwritten bytes. -/
lemma Flow.wrote {n k : ℕ} {rest : Bytes} (h : Flow connId src (.writing n rest) d)
    (hdown : dst' ≠ .shuttingDown) (hunwritten : dst'.unwritten = rest.drop k) :
    Flow connId src dst' { d with put := d.put ++ rest.take k } := by
  have hsplit : d.put ++ rest.take k ++ dst'.unwritten
      = d.put ++ Pc.unwritten (.writing n rest) := by
    rw [hunwritten, List.append_assoc, List.take_append_drop, Pc.unwritten]
  refine { sending_ne := h.sending_ne, close_eof := h.close_eof, put_prefix := ?_,
           shut := fun hshut => absurd (h.shut hshut).1 (by simp), transit := fun _ => ?_ }
  · have hstart := h.put_unwritten_prefix (by simp) (by simp)
    rw [← hsplit] at hstart
    exact (List.prefix_append _ _).trans hstart
  · rcases h.transit (by simp) with ⟨chunks, hne, hopen | hmarked⟩ | ⟨hdown, -⟩
    · refine Or.inl ⟨chunks, hne, Or.inl ?_⟩
      exact { queue_eq := hopen.queue_eq, dst_ne := hdown,
              isPrefix := by rw [hsplit]; exact hopen.isPrefix,
              all_of_running := by rw [hsplit]; exact hopen.all_of_running }
    · refine Or.inl ⟨chunks, hne, Or.inr ?_⟩
      exact { hmarked with dst_ne := hdown, all := by rw [hsplit]; exact hmarked.all }
    · cases hdown

/-- The destination stream is shut down on the marker. -/
lemma Flow.shutDown (h : Flow connId src .shuttingDown d) :
    Flow connId src .ended { d with shut := true } where
  sending_ne := h.sending_ne
  close_eof := h.close_eof
  put_prefix := h.put_prefix
  shut := by
    intro _
    rcases h.transit (by simp) with ⟨chunks, -, hopen | hmarked⟩ | ⟨-, hdel⟩
    · exact absurd rfl hopen.dst_ne
    · exact absurd rfl hmarked.dst_ne
    · exact ⟨rfl, { hdel with }⟩
  transit := fun hne => absurd rfl hne

/-- A move of the destination bridge keeps the invariant. -/
theorem Flow.drain (h : Flow connId src dst d) (hmove : Move dst event dst')
    (hhead : ∀ msg, event = .next (.message msg) → d.queue.head? = some msg) :
    Flow connId src dst' (d.drain dst event) := by
  cases hmove with
  | nextMarker id => exact h.nextMarker (hhead _ rfl)
  | nextData id hne => exact h.nextData hne (hhead _ rfl)
  | nextControl ctrl => exact absurd (hhead _ rfl) h.head_ne_control
  | @wroteAll n rest hne =>
      exact h.wrote (by simp) (by rw [List.drop_length]; rfl)
  | wrotePart n hpos hlt => exact h.wrote (by simp) rfl
  | shutDown => exact h.shutDown
  | readEof => exact h.dst_idle (by simp) (by simp) (by simp) rfl
  | @readChunk data hne => exact h.dst_idle (by simp) (by simp) (by simp) rfl
  | sent data => exact h.dst_idle (by simp) (by simp) (by simp) rfl
  | sentClose => exact h.dst_idle (by simp) (by simp) (by simp) rfl
  | sendCloseFailed queued => exact h.dst_idle (by simp) (by simp) (by simp) rfl
  | readErr => exact h.dst_ended
  | nextErr => exact h.dst_ended
  | nextNone => exact h.dst_ended
  | sendFailed data queued => exact h.dst_ended
  | closed => exact h.dst_ended
  | writeFailed n rest => exact h.dst_ended

/-! ## Runs -/

variable {cap : Side → ℕ} {s s' : System}

/-- The direction whose source is at `x`, between its two bridges, satisfies the invariant. -/
def System.FlowFrom (connId : UInt64) (s : System) (x : Side) : Prop :=
  Flow connId (s.bridge x).pc (s.bridge x.other).pc (s.out x)

/-- A message that a bridge is handed is the first one in the queue. -/
lemma head_of_admits {x : Side} (hadmits : admits cap s x event) (msg : Message)
    (hevent : event = .next (.message msg)) : (s.out x.other).queue.head? = some msg := by
  subst hevent
  simpa [admits] using hadmits

/-- A step of either bridge keeps the invariant of both directions. -/
lemma flowFrom_step (h : ∀ x, s.FlowFrom connId x) {label : Side × Event}
    (hstep : step cap connId s label = some s') (x : Side) : s'.FlowFrom connId x := by
  obtain ⟨z, event⟩ := label
  obtain ⟨hadmits, hmove, hother, hfeed, hdrain⟩ := step_eq_some hstep
  rcases z.eq_or_eq_other x with rfl | rfl
  · have hflow := (h x).feed hmove
    rw [← hfeed, ← hother] at hflow
    exact hflow
  · have hflow := h z.other
    rw [System.FlowFrom, Side.other_other] at hflow
    have hflow' := hflow.drain hmove (head_of_admits hadmits)
    rw [← hdrain, ← hother] at hflow'
    rw [System.FlowFrom, Side.other_other]
    exact hflow'

/-- The invariant of both directions holds in every state of every run. -/
theorem flowFrom_of_exec {labels : List (Side × Event)}
    (h : exec (step cap connId) .start labels = some s) (x : Side) : s.FlowFrom connId x :=
  exec_invariant (I := fun s => ∀ x, s.FlowFrom connId x)
    (fun _ _ _ hflow hstep => flowFrom_step hflow hstep) (fun _ => Flow.start) h x

/-! ## Runs without errors in which the destination stays open -/

/-- The event is no error. -/
def Event.NoError : Event → Prop
  | .read .err => False
  | .next .err => False
  | .sendFailed _ => False
  | .writeFailed => False
  | _ => True

/-- No error, and the local stream of the destination does not end. -/
def Clean (x : Side) (label : Side × Event) : Prop :=
  label.2.NoError ∧ (label.1 = x.other → label.2 ≠ .read (.ok []))

/-- The queue holds no close marker. -/
def Direction.Unmarked (d : Direction) : Prop := ∀ id, Message.data ⟨id, []⟩ ∉ d.queue

/-- The destination bridge ends only after it has taken the marker; `back` is the opposite
direction. -/
structure Orderly (connId : UInt64) (src dst : Pc) (d back : Direction) : Prop where
  dst_ne : dst ≠ .sendingClose ∧ dst ≠ .closing
  unmarked : back.Unmarked
  src_ne : src ≠ .shuttingDown
  shut : dst = .ended → d.shut = true
  src_done : src.Done → chunk connId [] ∈ d.queue ∨ dst = .shuttingDown ∨ dst = .ended

/-- Draining a direction leaves the other one without a marker. -/
lemma Direction.Unmarked.drain {back : Direction} (h : back.Unmarked) (pc : Pc) (event : Event) :
    (back.drain pc event).Unmarked := by
  intro id hmem
  refine h id ?_
  unfold Direction.drain at hmem
  split at hmem
  · exact List.mem_of_mem_tail hmem
  · split at hmem <;> exact hmem
  · exact hmem
  · exact hmem

/-- The sending end does not shut anything down. -/
lemma Direction.feed_shut (pc : Pc) (d : Direction) (event : Event) :
    (d.feed connId pc event).shut = d.shut := by
  unfold Direction.feed
  split <;> rfl

/-- A move at the source of the direction. -/
lemma Orderly.feed {back : Direction} (h : Orderly connId src dst d back)
    (hmove : Move src event src') (hclean : event.NoError)
    (hhead : ∀ msg, event = .next (.message msg) → back.queue.head? = some msg)
    (hnone : event = .next .none → dst = .ended) :
    Orderly connId src' dst (d.feed connId src event) (back.drain src event) := by
  refine { dst_ne := h.dst_ne, unmarked := h.unmarked.drain src event, src_ne := ?_, shut := ?_,
           src_done := ?_ }
  · rintro rfl
    cases hmove with
    | nextMarker id => exact h.unmarked id (List.mem_of_mem_head? (hhead _ rfl))
  · rw [Direction.feed_shut]
    exact h.shut
  · intro hdone
    cases hmove with
    | nextNone => exact Or.inr (Or.inr (hnone rfl))
    | sentClose => exact Or.inl (by simp [Direction.feed, Pc.outgoing])
    | closed => exact h.src_done trivial
    | shutDown => exact absurd rfl h.src_ne
    | readErr | nextErr | sendFailed | sendCloseFailed | writeFailed => exact absurd hclean id
    | _ => exact absurd hdone id

/-- What is on the queue of an unmarked direction after a move of its source. -/
lemma Direction.Unmarked.feed (h : d.Unmarked) (hsending : ∀ data, src = .sending data → data ≠ [])
    (hclose : src ≠ .sendingClose) (hclean : event.NoError) :
    (d.feed connId src event).Unmarked := by
  intro id hmem
  unfold Direction.feed at hmem
  split at hmem
  · exact h id hmem
  · rcases List.mem_append.mp hmem with hmem | hmem
    · exact h id hmem
    · unfold Pc.outgoing at hmem
      split at hmem <;> simp_all [chunk]
  · exact absurd hclean (by simp [Event.NoError])
  · exact h id hmem

/-- A move at the destination of the direction. -/
lemma Orderly.drain {back : Direction} (h : Orderly connId src dst d back)
    (hflow : Flow connId src dst d) (hback : Flow connId dst src back)
    (hmove : Move dst event dst') (hclean : event.NoError) (hopen : event ≠ .read (.ok []))
    (hhead : ∀ msg, event = .next (.message msg) → d.queue.head? = some msg)
    (hnone : event = .next .none → d.queue = [] ∧ src = .ended) :
    Orderly connId src dst' (d.drain dst event) (back.feed connId dst event) := by
  refine { dst_ne := ?_, unmarked := h.unmarked.feed hback.sending_ne h.dst_ne.1 hclean,
           src_ne := h.src_ne, shut := ?_, src_done := ?_ }
  · cases hmove with
    | readEof => exact absurd rfl hopen
    | sentClose => exact absurd rfl h.dst_ne.1
    | sendCloseFailed => exact absurd hclean id
    | _ => simp
  · rintro rfl
    cases hmove with
    | shutDown => rfl
    | closed => exact absurd rfl h.dst_ne.2
    | nextNone =>
        obtain ⟨hqueue, rfl⟩ := hnone rfl
        have hdone := h.src_done trivial
        simp [hqueue] at hdone
    | _ => exact absurd hclean id
  · intro hdone
    cases hmove with
    | nextMarker => exact Or.inr (Or.inl rfl)
    | shutDown => exact Or.inr (Or.inr rfl)
    | @nextData id data hne =>
        have hhead' := hhead _ rfl
        have hmarked : chunk connId [] ∈ d.queue := by
          simpa using h.src_done hdone
        refine Or.inl ?_
        cases hq : d.queue with
        | nil => simp [hq] at hmarked
        | cons m ms => simp_all [Direction.drain, chunk]
    | nextControl ctrl => exact absurd (hhead _ rfl) hflow.head_ne_control
    | readErr | nextErr | nextNone | sendFailed | closed | writeFailed => exact Or.inr (Or.inr rfl)
    | _ => exact Or.inl (by simpa [Direction.drain] using h.src_done hdone)

/-- Both invariants of the direction whose source is at `x`. -/
structure System.OrderlyFrom (connId : UInt64) (s : System) (x : Side) : Prop where
  flow : ∀ y, s.FlowFrom connId y
  orderly : Orderly connId (s.bridge x).pc (s.bridge x.other).pc (s.out x) (s.out x.other)

/-- A bridge finds the end only when the queue is empty and the other bridge has ended. -/
lemma none_of_admits {x : Side} (hadmits : admits cap s x event) (hevent : event = .next .none) :
    (s.out x.other).queue = [] ∧ (s.bridge x.other).pc = .ended := by
  subst hevent
  simpa [admits] using hadmits

/-- A clean step of either bridge keeps both invariants. -/
lemma orderlyFrom_step {x : Side} (h : s.OrderlyFrom connId x) {label : Side × Event}
    (hclean : Clean x label) (hstep : step cap connId s label = some s') :
    s'.OrderlyFrom connId x := by
  refine ⟨flowFrom_step h.flow hstep, ?_⟩
  obtain ⟨z, event⟩ := label
  obtain ⟨hadmits, hmove, hother, hfeed, hdrain⟩ := step_eq_some hstep
  rcases x.eq_or_eq_other z with rfl | rfl
  · rw [hother, hfeed, hdrain]
    exact h.orderly.feed hmove hclean.1 (head_of_admits hadmits)
      fun hevent => (none_of_admits hadmits hevent).2
  · rw [Side.other_other] at hother hdrain
    rw [hother, hfeed, hdrain]
    have hhead := fun msg => head_of_admits hadmits msg
    have hnone := fun hevent => none_of_admits hadmits hevent
    have hback := h.flow x.other
    rw [Side.other_other] at hhead hnone
    rw [System.FlowFrom, Side.other_other] at hback
    exact h.orderly.drain (h.flow x) hback hmove hclean.1 (hclean.2 rfl) hhead hnone

/-- The start is orderly on both sides. -/
lemma orderlyFrom_start (x : Side) : System.start.OrderlyFrom connId x where
  flow := fun _ => Flow.start
  orderly :=
    { dst_ne := ⟨by simp [System.start, Locals.start], by simp [System.start, Locals.start]⟩
      unmarked := fun _ => List.not_mem_nil
      src_ne := by simp [System.start, Locals.start]
      shut := by simp [System.start, Locals.start]
      src_done := fun hdone => absurd hdone id }

end RustProxy.Bridge
