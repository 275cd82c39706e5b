import Outbound.Proofs.Exchange.Trace
import Outbound.Proofs.Text.Progressive

/-! Text that is told as it comes is the text that is told as a whole, wherever the transport cuts
the body. What has been told while the body comes is the text of the bytes read so far, up to a
sequence that they cut off; the end tells what is left of that. -/

namespace Outbound

namespace Utf8

theorem decode_eq_nil_iff {bs : Bytes} : decode bs = [] ↔ bs = [] := by
  constructor
  · intro h
    cases htake : take bs with
    | done => exact take_eq_done_iff.1 htake
    | scalar c rest => simp [decode_of_scalar htake] at h
    | broken rest => simp [decode_of_broken htake] at h
    | cut => simp [decode_of_cut htake] at h
  · rintro rfl
    rfl

end Utf8

/-- Text that is told while the body comes, and how many bytes had been read by then. -/
structure Excerpt where
  text : String
  read : Nat
  deriving DecidableEq, Repr, Inhabited

namespace Event

def excerpt? : Event → Option Excerpt
  | .incrementalDataReceived _ data read _ => some ⟨data, read⟩
  | _ => none

def body? : Event → Option String
  | .dataReceived _ data => some data
  | _ => none

end Event

namespace Excerpt

def ofText (read : Nat) (decoded : List Char) : List Excerpt :=
  if decoded.isEmpty then [] else [⟨String.ofList decoded, read⟩]

theorem ofText_of_ne_nil {read : Nat} {decoded : List Char} (h : decoded ≠ []) :
    ofText read decoded = [⟨String.ofList decoded, read⟩] := by
  simp [ofText, h]

theorem mem_ofText {read : Nat} {decoded : List Char} {e : Excerpt} (h : e ∈ ofText read decoded) :
    e.text ≠ "" ∧ e.read = read := by
  unfold ofText at h
  split at h
  · cases h
  · next hne =>
    obtain rfl := List.mem_singleton.1 h
    exact ⟨by simpa using hne, rfl⟩

structure Tells (read : Nat) (text : List Char) (es : List Excerpt) : Prop where
  joined : String.join (es.map (·.text)) = String.ofList text
  ne_empty : ∀ e ∈ es, e.text ≠ ""
  ordered : (es.map (·.read)).Pairwise (· ≤ ·)
  read_le : ∀ e ∈ es, e.read ≤ read

variable {read read' : Nat} {text : List Char} {es : List Excerpt} {body : Bytes}
  {decoder : Decoder}

namespace Tells

theorem nil : Tells 0 [] [] := ⟨rfl, by simp, .nil, by simp⟩

theorem append (h : Tells read text es) (hle : read ≤ read') (decoded : List Char) :
    Tells read' (text ++ decoded) (es ++ ofText read' decoded) where
  joined := by
    have hnew : String.join ((ofText read' decoded).map (·.text)) = String.ofList decoded := by
      by_cases hnil : decoded = []
      · rw [hnil]
        rfl
      · simp [ofText_of_ne_nil hnil]
    rw [List.map_append, String.join_append, h.joined, hnew, String.ofList_append]
  ne_empty e he := by
    rcases List.mem_append.1 he with he | he
    · exact h.ne_empty e he
    · exact (mem_ofText he).1
  ordered := by
    rw [List.map_append, List.pairwise_append]
    refine ⟨h.ordered, ?_, fun m hm n hn => ?_⟩
    · unfold ofText
      split <;> simp
    · obtain ⟨e, he, rfl⟩ := List.mem_map.1 hm
      obtain ⟨e', he', rfl⟩ := List.mem_map.1 hn
      exact (h.read_le e he).trans (hle.trans_eq (mem_ofText he').2.symm)
  read_le e he := by
    rcases List.mem_append.1 he with he | he
    · exact (h.read_le e he).trans hle
    · exact (mem_ofText he).2.le

theorem eq_nil (h : Tells read [] es) : es = [] := by
  cases es with
  | nil => rfl
  | cons e es =>
    have hjoined := h.joined
    rw [List.map_cons, String.join_cons] at hjoined
    exact absurd (String.append_eq_empty_iff.1 hjoined).1 (h.ne_empty e (by simp))

end Tells

/-- What has been told when these bytes have been read. The decoder holds what they cut off; if that
is nothing, the last excerpt goes up to where the bytes end. -/
structure Follows (body : Bytes) (decoder : Decoder) (read : Nat) (es : List Excerpt) : Prop where
  read_eq : read = body.length
  pending : decoder.pending = (Utf8.scan body).2
  tells : Tells body.length (Utf8.scan body).1 es
  last : body ≠ [] → decoder.pending = [] → es.getLast?.map (·.read) = some body.length

namespace Follows

theorem start : Follows [] {} 0 [] where
  read_eq := rfl
  pending := by rw [Utf8.scan_nil]
  tells := by
    rw [Utf8.scan_nil]
    exact .nil
  last h := absurd rfl h

theorem push (h : Follows body decoder read es) (piece : Bytes) :
    Follows (body ++ piece) (decoder.push piece).2 (read + piece.length)
      (es ++ ofText (read + piece.length) (decoder.push piece).1) := by
  have hread : read + piece.length = (body ++ piece).length := by
    rw [List.length_append, h.read_eq]
  have hscan : Utf8.scan (body ++ piece) =
      ((Utf8.scan body).1 ++ (decoder.push piece).1, (decoder.push piece).2.pending) := by
    rw [Utf8.scan_append, ← h.pending]
    rfl
  refine ⟨hread, by rw [hscan], ?_, fun hne hnone => ?_⟩
  · rw [hscan, hread]
    exact h.tells.append (by simp) _
  · by_cases htold : (decoder.push piece).1 = []
    · -- neither told nor held, so there was no piece
      have hnil : Utf8.decode (decoder.pending ++ piece) = [] := by
        rw [Utf8.decode_eq_scan]
        exact List.append_eq_nil_iff.2 ⟨htold, Utf8.decode_eq_nil_iff.2 hnone⟩
      obtain ⟨hpending, rfl⟩ := List.append_eq_nil_iff.1 (Utf8.decode_eq_nil_iff.1 hnil)
      rw [List.append_nil] at hne ⊢
      simpa [htold, ofText] using h.last hne hpending
    · rw [ofText_of_ne_nil htold, List.getLast?_concat, ← hread]
      rfl

end Follows

structure Delivers (body : Bytes) (es : List Excerpt) : Prop where
  tells : Tells body.length (Utf8.decode body) es
  last : body ≠ [] → es.getLast?.map (·.read) = some body.length

theorem Follows.finish (h : Follows body decoder read es) :
    Delivers body (es ++ ofText read decoder.finish.1) := by
  have hrest : decoder.finish.1 = Utf8.decode (Utf8.scan body).2 := by
    rw [← h.pending]
    rfl
  rw [h.read_eq]
  refine ⟨?_, fun hne => ?_⟩
  · rw [Utf8.decode_eq_scan, ← hrest]
    exact h.tells.append (Nat.le_refl _) _
  · by_cases hheld : decoder.finish.1 = []
    · have hnone : decoder.pending = [] := by
        rw [h.pending]
        exact Utf8.decode_eq_nil_iff.1 (hrest ▸ hheld)
      simpa [hheld, ofText] using h.last hne hnone
    · rw [ofText_of_ne_nil hheld, List.getLast?_concat]
      rfl

theorem excerpts_tellText (id : RequestId) (total : Option Nat) (read : Nat)
    (decoded : List Char) :
    (Intake.tellText id total read decoded).filterMap Event.excerpt? = ofText read decoded := by
  unfold Intake.tellText ofText
  split <;> rfl

theorem Follows.readPieces (h : Follows body decoder read es) (id : RequestId)
    (total : Option Nat) (pieces : List Bytes) :
    let done := Intake.readPieces id total decoder read pieces
    Follows (body ++ pieces.flatten) done.2.1 done.2.2
      (es ++ done.1.filterMap Event.excerpt?) := by
  induction pieces generalizing body decoder read es with
  | nil => simpa [Intake.readPieces] using h
  | cons piece pieces ih =>
    have hrest := ih (h.push piece)
    simp only [Intake.readPieces, List.filterMap_append, excerpts_tellText, List.flatten_cons]
    simpa only [List.append_assoc] using hrest

theorem Follows.run (h : Follows body decoder read es) (sub : Submission)
    (total : Option Nat) (chunks : List (Time × Bytes))
    (last : Time) :
    Delivers (body ++ (chunks.map (·.2)).flatten)
      (es ++ (Exchange.run sub (.receiving total (.text decoder read))
        (Reply.chunkArrivals chunks ++ [(last, .ended)])).1.filterMap Event.excerpt?) := by
  -- on the chunks to come, as the pieces of each follow what was read before it
  induction chunks generalizing body decoder read es with
  | nil =>
    have htold : (Exchange.run sub (.receiving total (.text decoder read)) [(last, .ended)]).1 =
        Intake.tellText sub.id total read decoder.finish.1 := List.append_nil _
    simp only [Reply.chunkArrivals, List.map_nil, List.nil_append, List.flatten_nil,
      List.append_nil]
    rw [htold, excerpts_tellText]
    exact h.finish
  | cons c chunks ih =>
    obtain ⟨now, data⟩ := c
    have hpieces := h.readPieces sub.id total (Response.pieces data)
    rw [Response.pieces, flatten_chunksOf] at hpieces
    have hrest := ih hpieces
    rw [List.append_assoc, List.append_assoc, ← List.filterMap_append] at hrest
    simpa only [Reply.chunkArrivals, List.map_cons, List.cons_append, List.flatten_cons,
      Exchange.run_cons, Exchange.step, Intake.chunk, Response.pieces] using hrest

end Excerpt

namespace Descriptor

variable {env : Environment} {d : Descriptor} {sub : Submission}

theorem delivery_of_prepare (h : (d.prepare env).outcome = .ok sub) :
    sub.streams = (d.incremental && d.responseType.isText) ∧ sub.responseType = d.responseType ∧
      sub.Configured := by
  obtain ⟨r, -, hr⟩ := Trial.andThen_eq_ok_iff.1 h
  cases hr
  exact ⟨rfl, rfl, fun hreports => (Bool.and_eq_true_iff.1 hreports).1⟩

end Descriptor

namespace Exchange

variable {sub : Submission}

theorem delivers_of_streams (h : sub.streams = true) (now last : Time) (head : ResponseHead)
    (chunks : List (Time × Bytes)) :
    Excerpt.Delivers (chunks.map (·.2)).flatten
      ((run sub .waiting ((Reply.answered now head chunks last none).seen none)).1.filterMap
        Event.excerpt?) := by
  have hstart : Intake.start sub now head.length = .text {} 0 := if_pos h
  have hrest := Excerpt.Follows.start.run sub head.length chunks last
  rwa [← hstart] at hrest

theorem body?_of_reports {e : Event} (h : sub.Reports e) : e.body? = none := by
  cases e with
  | dataReceived => exact h.elim
  | _ => rfl

theorem bodies_of_whole (h : sub.Configured) (hwhole : sub.streams = false) (now last : Time)
    (head : ResponseHead) (chunks : List (Time × Bytes)) :
    (run sub .waiting ((Reply.answered now head chunks last none).seen none)).1.filterMap
      Event.body? = [Response.encodeBody sub.responseType (chunks.map (·.2)).flatten] := by
  obtain ⟨progress, hprogress, -, hrun⟩ :=
    Reply.exists_run_seen h (.answered now head chunks last none) none
  have hreports : progress.filterMap Event.body? = [] :=
    List.filterMap_eq_nil_iff.2 fun e he => body?_of_reports (hprogress e he)
  have hend : (Reply.answered now head chunks last none).outcome none = .finished := rfl
  rw [hrun, hend, Submission.tellBody, if_pos ⟨rfl, hwhole⟩, List.filterMap_append,
    List.filterMap_append, hreports]
  rfl

/-- Of two requests for text one asks for it as it comes, the other as a whole. Whatever chunks the
same body comes in for each, and at whatever times, if it comes to a clean end: the excerpts that
the one is told make up the text that the other is told. None of them is empty, the bytes read never
go back nor beyond the body, and the last excerpt goes up to its end; without a body there is
none. -/
theorem streamed_text_eq_whole {env env' : Environment} {d d' : Descriptor}
    {sub sub' : Submission} (hsub : (d.prepare env).outcome = .ok sub)
    (hsub' : (d'.prepare env').outcome = .ok sub') (htype : d.responseType = .text)
    (htype' : d'.responseType = .text) (hstreams : d.incremental = true)
    (hwhole : d'.incremental = false) (now last now' last' : Time) (head head' : ResponseHead)
    (chunks chunks' : List (Time × Bytes))
    (hbody : (chunks.map (·.2)).flatten = (chunks'.map (·.2)).flatten) :
    let body := (chunks.map (·.2)).flatten
    let told := (run sub .waiting ((Reply.answered now head chunks last none).seen none)).1
    let told' := (run sub' .waiting ((Reply.answered now' head' chunks' last' none).seen none)).1
    let excerpts := told.filterMap Event.excerpt?
    told'.filterMap Event.body? = [String.join (excerpts.map (·.text))] ∧
      (∀ e ∈ excerpts, e.text ≠ "") ∧
      (excerpts.map (·.read)).Pairwise (· ≤ ·) ∧
      (∀ e ∈ excerpts, e.read ≤ body.length) ∧
      (body ≠ [] → excerpts.getLast?.map (·.read) = some body.length) ∧
      (body = [] → excerpts = []) := by
  intro body told told' excerpts
  obtain ⟨hasked, -, -⟩ := Descriptor.delivery_of_prepare hsub
  obtain ⟨hasked', htext, hconfigured⟩ := Descriptor.delivery_of_prepare hsub'
  have hstreamed : sub.streams = true := by rw [hasked, hstreams, htype]; rfl
  have hgathered : sub'.streams = false := by rw [hasked', hwhole]; rfl
  have hdelivers : Excerpt.Delivers body excerpts :=
    delivers_of_streams hstreamed now last head chunks
  have htold : told'.filterMap Event.body? = [String.ofList (Utf8.decode body)] := by
    rw [bodies_of_whole hconfigured hgathered, htext, htype', ← hbody]
    rfl
  refine ⟨?_, hdelivers.tells.ne_empty, hdelivers.tells.ordered, hdelivers.tells.read_le,
    hdelivers.last, fun hnil => ?_⟩
  · rw [htold, hdelivers.tells.joined]
  · have htells := hdelivers.tells
    rw [hnil] at htells
    exact htells.eq_nil

theorem streamed_text_eq_whole_of_split :
    let env : Environment := { resolve := fun _ => none, boundary := "" }
    let d : Descriptor := { id := ⟨1, by decide⟩, method := "GET", url := "http://a/" }
    ∃ sub sub', ({ d with incremental := true }.prepare env).outcome = .ok sub ∧
      (d.prepare env).outcome = .ok sub' ∧
      let head : ResponseHead := { status := 200, url := sub.request.url }
      let reply : Reply :=
        .answered 0 head [(1, [0xe2, 0x82]), (2, []), (3, [0xac, 0xf0])] 4 none
      let excerpts := (run sub .waiting (reply.seen none)).1.filterMap Event.excerpt?
      String.join (excerpts.map (·.text)) = "€\uFFFD" ∧
        excerpts.getLast?.map (·.read) = some 4 := by
  intro env d
  have hsafe : Except.isOk ({ d with incremental := true }.prepare env).outcome = true := by
    decide +kernel
  have hsafe' : Except.isOk (d.prepare env).outcome = true := by decide +kernel
  obtain ⟨sub, hsub⟩ := Dispatcher.exists_prepared hsafe
  obtain ⟨sub', hsub'⟩ := Dispatcher.exists_prepared hsafe'
  refine ⟨sub, sub', hsub, hsub', ?_⟩
  intro head reply excerpts
  obtain ⟨htold, -, -, -, hlast, -⟩ := streamed_text_eq_whole hsub hsub' rfl rfl rfl rfl 0 4 0 1
    head head [(1, [0xe2, 0x82]), (2, []), (3, [0xac, 0xf0])] [(0, [0xe2, 0x82, 0xac, 0xf0])] rfl
  obtain ⟨hasked, htext, hconfigured⟩ := Descriptor.delivery_of_prepare hsub'
  have hdecoded : Utf8.decode [0xe2, 0x82, 0xac, 0xf0] = ['€', '\uFFFD'] := by decide
  have hwhole := bodies_of_whole hconfigured hasked 0 1 head [(0, [0xe2, 0x82, 0xac, 0xf0])]
  rw [hwhole, htext] at htold
  refine ⟨?_, hlast (by simp)⟩
  rw [← (List.cons.inj htold).1]
  exact congrArg String.ofList hdecoded

end Exchange

end Outbound
