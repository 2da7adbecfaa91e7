import SynchroSonic.Transport.Protocol

/-!
# Streams of frames

Frames written one after the other and read back one after the other. Since every frame announces
its own length, the concatenation needs no separators: `readFrames_of_items` walks a list of
encodings with the single-frame law `readFrame_of_items` and stops behind the last one, in front of
whatever follows.

`frame_codec` puts the two directions and the refusal of over-long frames together.
-/

namespace SynchroSonic

/-- The encodings of several frames in a row. -/
def encodeFrames (bodies : List FrameBody) : List UInt8 := bodies.flatMap encodeFrame

@[simp] theorem encodeFrames_nil : encodeFrames [] = [] := rfl

@[simp] theorem encodeFrames_cons (body : FrameBody) (bodies : List FrameBody) :
    encodeFrames (body :: bodies) = encodeFrame body ++ encodeFrames bodies := rfl

/-- Write several frames in a row: the return values of `write_frame`, up to the first failure. -/
def writeFrames : List FrameBody → Writer → Except TransportError (List ℕ) × Writer
  | [], writer => (.ok [], writer)
  | body :: bodies, writer =>
    match writeFrame body.kind body.metadata body.payload writer with
    | (.error error, writer) => (.error error, writer)
    | (.ok size, writer) =>
      match writeFrames bodies writer with
      | (.error error, writer) => (.error error, writer)
      | (.ok sizes, writer) => (.ok (size :: sizes), writer)

/-- Read `n` frames in a row, up to the first failure. -/
def readFrames : ℕ → Reader → Except TransportError (List Frame) × Reader
  | 0, reader => (.ok [], reader)
  | n + 1, reader =>
    match readFrame reader with
    | (.error error, reader) => (.error error, reader)
    | (.ok frame, reader) =>
      match readFrames n reader with
      | (.error error, reader) => (.error error, reader)
      | (.ok frames, reader) => (.ok (frame :: frames), reader)

theorem writeFrames_of_withinLimits {bodies : List FrameBody} {writer : Writer}
    (hlim : ∀ body ∈ bodies, body.WithinLimits) (hrel : writer.Reliable) :
    ∃ writer' : Writer,
      writeFrames bodies writer =
        (.ok (bodies.map fun body ↦ (encodeFrame body).length), writer') ∧
      writer'.written = writer.written ++ encodeFrames bodies := by
  induction bodies generalizing writer with
  | nil => exact ⟨writer, rfl, by simp⟩
  | cons body bodies ih =>
    obtain ⟨writer₁, hwrite, hwritten, hrel₁⟩ :=
      writeFrame_of_withinLimits (hlim body List.mem_cons_self) hrel
    obtain ⟨writer₂, hwrites, hwritten₂⟩ :=
      ih (fun body' hmem ↦ hlim body' (List.mem_cons_of_mem _ hmem)) hrel₁
    refine ⟨writer₂, by simp only [writeFrames, hwrite, hwrites, List.map_cons], ?_⟩
    rw [hwritten₂, hwritten, encodeFrames_cons, List.append_assoc]

theorem readFrames_of_items {bodies : List FrameBody} {reader : Reader}
    {tail : List (UInt8 ⊕ IoError)} (hlim : ∀ body ∈ bodies, body.WithinLimits)
    (h : reader.items = (encodeFrames bodies).map .inl ++ tail) :
    ∃ frames rest, readFrames bodies.length reader = (.ok frames, rest) ∧
      frames.map Frame.toFrameBody = bodies ∧
      frames.map Frame.wireBytes = bodies.map (fun body ↦ (encodeFrame body).length) ∧
      rest.items = tail := by
  induction bodies generalizing reader with
  | nil => exact ⟨[], reader, rfl, rfl, rfl, by simpa using h⟩
  | cons body bodies ih =>
    rw [encodeFrames_cons, List.map_append, List.append_assoc] at h
    obtain ⟨reader₁, hread, hitems⟩ := readFrame_of_items (hlim body List.mem_cons_self) h
    obtain ⟨frames, rest, hreads, hbodies, hsizes, hrest⟩ :=
      ih (fun body' hmem ↦ hlim body' (List.mem_cons_of_mem _ hmem)) hitems
    refine ⟨_, rest, by simp only [List.length_cons, readFrames, hread, hreads]; rfl, ?_, ?_, hrest⟩
    · rw [List.map_cons, hbodies]
    · rw [List.map_cons, List.map_cons, hsizes]

/-- A sink whose calls do not fail reproduces what a successful read consumed. -/
theorem writeFrame_of_readFrame {reader rest : Reader} {frame : Frame} {writer : Writer}
    (h : readFrame reader = (.ok frame, rest)) (hrel : writer.Reliable) :
    ∃ (consumed : List UInt8) (writer' : Writer),
      reader.items = consumed.map .inl ++ rest.items ∧ consumed.length = frame.wireBytes ∧
      writeFrame frame.kind frame.metadata frame.payload writer =
        (.ok frame.wireBytes, writer') ∧
      writer'.written = writer.written ++ consumed := by
  obtain ⟨hlim, hsize, hitems⟩ := items_of_readFrame_ok h
  obtain ⟨writer', hwrite, hwritten, -⟩ := writeFrame_of_withinLimits hlim hrel
  exact ⟨_, writer', hitems, hsize.symm, by rw [hwrite, hsize], hwritten⟩

theorem writeFrame_fails_iff (body : FrameBody) {writer : Writer} (hrel : writer.Reliable) :
    (∃ error writer', writeFrame body.kind body.metadata body.payload writer =
        (.error error, writer')) ↔
      MAX_METADATA_BYTES < body.metadata.length ∨ MAX_PAYLOAD_BYTES < body.payload.length := by
  constructor
  · rintro ⟨error, writer', hwrite⟩
    by_contra hle
    have hlim : body.WithinLimits := ⟨by omega, by omega⟩
    obtain ⟨_, hok, -, -⟩ := writeFrame_of_withinLimits hlim hrel
    rw [hok] at hwrite
    simp at hwrite
  · intro hlong
    have hlim : ¬ body.WithinLimits := fun hlim ↦ by
      have := hlim.1
      have := hlim.2
      omega
    obtain ⟨message, hwrite⟩ := writeFrame_of_not_withinLimits writer hlim
    exact ⟨_, _, hwrite⟩

/-- **The frame codec is a self-delimiting bijection on its image.**

* What `write_frame` emits for a list of frames, followed by anything, is read back as those frames,
  with the sizes `write_frame` returned, and reading stops in front of what follows.
* Whatever `read_frame` accepts, `write_frame` reproduces byte for byte, and `wire_bytes` counts
  those bytes.
* On a sink whose own calls do not fail, `write_frame` fails exactly beyond a length limit, and
  then writes nothing. -/
theorem frame_codec :
    (∀ (bodies : List FrameBody) (writer : Writer), (∀ body ∈ bodies, body.WithinLimits) →
      writer.Reliable →
      ∃ sizes writer' written, writeFrames bodies writer = (.ok sizes, writer') ∧
        writer'.written = writer.written ++ written ∧
        ∀ (reader : Reader) (tail : List (UInt8 ⊕ IoError)),
          reader.items = written.map .inl ++ tail →
          ∃ frames rest, readFrames bodies.length reader = (.ok frames, rest) ∧
            frames.map Frame.toFrameBody = bodies ∧ frames.map Frame.wireBytes = sizes ∧
            rest.items = tail) ∧
    (∀ (reader rest : Reader) (frame : Frame) (writer : Writer), writer.Reliable →
      readFrame reader = (.ok frame, rest) →
      ∃ consumed writer', reader.items = consumed.map .inl ++ rest.items ∧
        consumed.length = frame.wireBytes ∧
        writeFrame frame.kind frame.metadata frame.payload writer =
          (.ok frame.wireBytes, writer') ∧
        writer'.written = writer.written ++ consumed) ∧
    (∀ (body : FrameBody) (writer : Writer), writer.Reliable →
      ((∃ error writer', writeFrame body.kind body.metadata body.payload writer =
          (.error error, writer')) ↔
        8192 < body.metadata.length ∨ 262144 < body.payload.length) ∧
      ∀ error writer', writeFrame body.kind body.metadata body.payload writer =
        (.error error, writer') → writer' = writer) := by
  refine ⟨fun bodies writer hlim hrel ↦ ?_, fun reader rest frame writer hrel h ↦ ?_,
    fun body writer hrel ↦ ⟨writeFrame_fails_iff body hrel, fun error writer' hwrite ↦ ?_⟩⟩
  · obtain ⟨writer', hwrite, hwritten⟩ := writeFrames_of_withinLimits hlim hrel
    exact ⟨_, writer', _, hwrite, hwritten, fun reader tail h ↦ readFrames_of_items hlim h⟩
  · exact writeFrame_of_readFrame h hrel
  · have hlong := (writeFrame_fails_iff body hrel).1 ⟨error, writer', hwrite⟩
    have hlim : ¬ body.WithinLimits := fun hlim ↦ by
      have := hlim.1
      have := hlim.2
      omega
    obtain ⟨message, hrefused⟩ := writeFrame_of_not_withinLimits writer hlim
    rw [hrefused] at hwrite
    exact (Prod.mk.inj hwrite).2.symm

/-- Two frames, one of them carrying the magic as its payload and one empty, in front of one stray
byte. -/
theorem frame_codec_two_frames :
    ∃ sizes writer' written,
      writeFrames [⟨.audio, [123, 125], FRAME_MAGIC⟩, ⟨.stop, [], []⟩] .empty =
        (.ok sizes, writer') ∧
      writer'.written = written ∧
      ∃ frames rest,
        readFrames 2 (ReadScript.ofList (written ++ [7]) : Reader) = (.ok frames, rest) ∧
        frames.map Frame.toFrameBody = [⟨.audio, [123, 125], FRAME_MAGIC⟩, ⟨.stop, [], []⟩] ∧
        frames.map Frame.wireBytes = sizes ∧ rest.items = [.inl 7] := by
  obtain ⟨sizes, writer', written, hwrite, hwritten, hread⟩ :=
    frame_codec.1 [⟨.audio, [123, 125], FRAME_MAGIC⟩, ⟨.stop, [], []⟩] .empty (by decide)
      WriteScript.reliable_empty
  refine ⟨sizes, writer', written, hwrite, by simpa [WriteScript.empty] using hwritten, ?_⟩
  exact hread (ReadScript.ofList (written ++ [7])) [.inl 7]
    (by rw [Reader.items, ReadScript.items_ofList, List.map_append]; rfl)

end SynchroSonic
