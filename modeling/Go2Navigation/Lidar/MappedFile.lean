import Go2Navigation.Foundation.Reactor
import Go2Navigation.Foundation.Slice

/-!
# Reading a file through a mapping

`PcapSource::Private` maps one chunk of the file at a time.  What is copied
from the mapping is a slice of it; a copy that reached beyond the mapping
would be too short.
-/

namespace Go2Navigation.Lidar

open Go2Navigation.Foundation

/-- `CHUNK_SIZE`. -/
def chunkSize : ℕ := 64 * 1024 * 1024

theorem chunkSize_pos : 0 < chunkSize := by decide

/-- `PcapSource::Private`, and the file it has opened. -/
structure Private where
  file : List UInt8
  mappedSize : ℕ
  mappedOffset : ℕ
  fpos : ℕ
  isMapped : Bool
deriving DecidableEq

namespace Private

/-- `_mapped_memory`. -/
def mappedMemory (file : Private) : List UInt8 :=
  if file.isMapped then slice file.file file.mappedOffset file.mappedSize
  else []

def eof (file : Private) : Bool :=
  file.file.length ≤ file.fpos

def mapChunk (offset : ℕ) (file : Private) : Private :=
  if file.file.length ≤ offset then file
  else
    { file with
      mappedOffset := offset / chunkSize * chunkSize
      mappedSize :=
        min chunkSize (file.file.length - offset / chunkSize * chunkSize)
      isMapped := true }

/-- `check_and_map_chunk`. -/
def checkAndMapChunk (pos : ℕ) (file : Private) : Private :=
  if file.isMapped ∧ file.mappedOffset ≤ pos ∧
      pos < file.mappedOffset + file.mappedSize then file
  else file.mapChunk pos

/-- `ensure_mapped`. -/
def ensureMapped (file : Private) : Private :=
  if ¬file.isMapped ∨ file.fpos < file.mappedOffset ∨
      file.mappedOffset + file.mappedSize ≤ file.fpos then
    file.mapChunk (file.fpos / chunkSize * chunkSize)
  else file

/-- `open`. -/
def opened (file : List UInt8) : Private :=
  (⟨file, 0, 0, 0, false⟩ : Private).mapChunk 0

/-- `fpos`, with an argument. -/
def setFpos (position : ℕ) (file : Private) : Private :=
  if file.file.length < position then file
  else { file with fpos := position }.ensureMapped

/-- `read_across_one_chunks`, with what it has written to `dst`. -/
def readAcrossOneChunks (length currentPos : ℕ) (file : Private) :
    List UInt8 × Private :=
  if chunkSize < length then ([], file)
  else
    let first := file.checkAndMapChunk currentPos
    if ¬first.isMapped ∨ currentPos < first.mappedOffset ∨
        first.mappedOffset + first.mappedSize ≤ currentPos then ([], first)
    else
      let remaining := first.mappedOffset + first.mappedSize - currentPos
      let start := currentPos - first.mappedOffset
      if length ≤ remaining then
        (slice first.mappedMemory start length, first)
      else
        let front := slice first.mappedMemory start remaining
        let nextChunk := currentPos / chunkSize + 1
        if file.file.length ≤ nextChunk * chunkSize then (front, first)
        else
          let second := first.mapChunk (nextChunk * chunkSize)
          if ¬second.isMapped ∨ nextChunk * chunkSize < second.mappedOffset ∨
              second.mappedOffset + second.mappedSize ≤
                nextChunk * chunkSize ∨
              second.mappedSize < length - remaining then (front, second)
          else
            (front ++ slice second.mappedMemory 0 (length - remaining),
              second)

/-- `read` of a structure with this `sizeof`. -/
def readValue (size : ℕ) (file : Private) :
    Option (List UInt8) × Private :=
  if file.file.length < file.fpos + size then (none, file)
  else
    let mapped := file.checkAndMapChunk file.fpos
    if mapped.mappedOffset + mapped.mappedSize < file.fpos + size then
      let across := mapped.readAcrossOneChunks size file.fpos
      (some across.1, { across.2 with fpos := file.fpos + size })
    else
      (some
        (slice mapped.mappedMemory (file.fpos - mapped.mappedOffset) size),
        { mapped with fpos := file.fpos + size })

/-- The loop of `read`; it has no result if it does not end. -/
def readLoop : ℕ → ℕ → List UInt8 → Private →
    Option (List UInt8 × Private)
  | 0, remaining, copied, file =>
      if remaining = 0 then some (copied, file) else none
  | rounds + 1, remaining, copied, file =>
      if remaining = 0 then some (copied, file)
      else
        let mapped := file.checkAndMapChunk file.fpos
        let start := mapped.fpos - mapped.mappedOffset
        let toRead := min remaining (mapped.mappedSize - start)
        readLoop rounds (remaining - toRead)
          (copied ++ slice mapped.mappedMemory start toRead)
          { mapped with fpos := mapped.fpos + toRead }

/-- `read` into a buffer. -/
def readInto (rounds length : ℕ) (file : Private) :
    Option (Option (List UInt8) × Private) :=
  if length = 0 then some (some [], file)
  else if file.file.length < file.fpos + length then some (none, file)
  else
    (readLoop rounds length [] file).map fun result =>
      (some result.1, result.2)

def move (length : ℕ) (file : Private) : Bool × Private :=
  if file.file.length < file.fpos + length then (false, file)
  else
    (true,
      { file.checkAndMapChunk (file.fpos + length) with
        fpos := file.fpos + length })

/-! ## The mapping -/

variable {file : Private} {bytes : List UInt8} {position length : ℕ}

/-- The mapping is the chunk that contains this position. -/
structure Covers (file : Private) (position : ℕ) : Prop where
  isMapped : file.isMapped = true
  aligned : file.mappedOffset % chunkSize = 0
  mappedSize :
    file.mappedSize = min chunkSize (file.file.length - file.mappedOffset)
  starts : file.mappedOffset ≤ position
  ends : position < file.mappedOffset + file.mappedSize

/-- An open file at a position, with the mapping of some chunk. -/
structure At
    (file : Private) (bytes : List UInt8) (position : ℕ) : Prop where
  file_eq : file.file = bytes
  fpos : file.fpos = position
  inside : position ≤ bytes.length
  mapping : file.isMapped = true → ∃ other, file.Covers other

theorem mapChunk_covers (inside : position < file.file.length) :
    (file.mapChunk position).Covers position := by
  rw [mapChunk, if_neg (by omega)]
  have starts := Nat.div_mul_le_self position chunkSize
  have ends : position < position / chunkSize * chunkSize + chunkSize :=
    Nat.lt_div_mul_add chunkSize_pos
  constructor
  · rfl
  · exact Nat.mul_mod_left _ _
  · rfl
  · dsimp only
    omega
  · dsimp only
    omega

theorem mapChunk_kept (offset : ℕ) (file : Private) :
    (file.mapChunk offset).file = file.file ∧
      (file.mapChunk offset).fpos = file.fpos := by
  rw [mapChunk]
  split <;> exact ⟨rfl, rfl⟩

theorem checkAndMapChunk_kept (pos : ℕ) (file : Private) :
    (file.checkAndMapChunk pos).file = file.file ∧
      (file.checkAndMapChunk pos).fpos = file.fpos := by
  rw [checkAndMapChunk]
  split
  · exact ⟨rfl, rfl⟩
  · exact mapChunk_kept pos file

theorem At.checkAndMapChunk_covers (here : file.At bytes position)
    {pos : ℕ} (inside : pos < bytes.length) :
    (file.checkAndMapChunk pos).Covers pos := by
  rw [← here.file_eq] at inside
  rw [checkAndMapChunk]
  split
  · next covered =>
    rcases here.mapping covered.1 with ⟨other, covers⟩
    exact { covers with starts := covered.2.1, ends := covered.2.2 }
  · exact mapChunk_covers inside

theorem At.mapping_mapChunk (here : file.At bytes position) (offset : ℕ) :
    (file.mapChunk offset).isMapped = true →
      ∃ other, (file.mapChunk offset).Covers other := by
  intro mapped
  by_cases inside : offset < file.file.length
  · exact ⟨offset, mapChunk_covers inside⟩
  · rw [mapChunk, if_pos (by omega)] at mapped ⊢
    exact here.mapping mapped

/-- What is copied from the mapping is the file. -/
theorem Covers.slice_mappedMemory (covers : file.Covers position)
    (inside : position + length ≤ file.mappedOffset + file.mappedSize) :
    slice file.mappedMemory (position - file.mappedOffset) length =
      slice file.file position length := by
  have starts := covers.starts
  rw [mappedMemory, if_pos covers.isMapped, slice_slice _ _ (by omega)]
  congr 1
  omega

theorem Covers.slice_mappedMemory_at (covers : file.Covers position)
    (inside : position + length ≤ file.mappedOffset + file.mappedSize)
    {start : ℕ} (starts : start = position - file.mappedOffset) :
    slice file.mappedMemory start length =
      slice file.file position length := by
  rw [starts, covers.slice_mappedMemory inside]

/-- Where the next chunk begins. -/
theorem Covers.border (covers : file.Covers position)
    (full : file.mappedSize = chunkSize) :
    (position / chunkSize + 1) * chunkSize =
      file.mappedOffset + file.mappedSize := by
  have starts := covers.starts
  have ends := covers.ends
  have whole := Nat.div_mul_cancel (Nat.dvd_of_mod_eq_zero covers.aligned)
  have index : position / chunkSize = file.mappedOffset / chunkSize := by
    apply Nat.div_eq_of_lt_le
    · rw [whole]
      exact starts
    · rw [Nat.succ_mul, whole, ← full]
      exact ends
  rw [index, Nat.succ_mul, whole, full]

theorem mapChunk_aligned {start : ℕ} (aligned : start % chunkSize = 0)
    (inside : start < file.file.length) :
    (file.mapChunk start).Covers start ∧
      (file.mapChunk start).mappedOffset = start := by
  refine ⟨mapChunk_covers inside, ?_⟩
  rw [mapChunk, if_neg (by omega)]
  exact Nat.div_mul_cancel (Nat.dvd_of_mod_eq_zero aligned)

/-- The end of one chunk and the beginning of the next. -/
theorem Covers.slice_across (covers : file.Covers position)
    (short : length ≤ chunkSize)
    (inside : position + length ≤ file.file.length)
    (beyond : file.mappedOffset + file.mappedSize < position + length)
    {start : ℕ} (border : start = file.mappedOffset + file.mappedSize) :
    (file.mapChunk start).Covers start ∧
      (file.mapChunk start).mappedOffset = start ∧
      length - (start - position) ≤ (file.mapChunk start).mappedSize ∧
      slice file.mappedMemory (position - file.mappedOffset)
            (start - position) ++
          slice (file.mapChunk start).mappedMemory 0
            (length - (start - position)) =
        slice file.file position length := by
  have starts := covers.starts
  have ends := covers.ends
  have size := covers.mappedSize
  have aligned : start % chunkSize = 0 := by
    rw [border, (by omega : file.mappedSize = chunkSize),
      Nat.add_mod_right, covers.aligned]
  rcases
      @mapChunk_aligned file start aligned (by omega) with
    ⟨next, offset⟩
  have room := next.mappedSize
  rw [offset, (mapChunk_kept start file).1] at room
  refine ⟨next, offset, by omega, ?_⟩
  rw [covers.slice_mappedMemory (by omega),
    next.slice_mappedMemory_at (by omega) (by omega),
    (mapChunk_kept start file).1]
  have together :=
    slice_add file.file position (start - position)
      (length - (start - position))
  rw [Nat.add_sub_cancel' (by omega), Nat.add_sub_cancel' (by omega)]
    at together
  exact together.symm

/-! ## Reading -/

theorem At.moved (here : file.At bytes position) {next : ℕ}
    (inside : next ≤ bytes.length) :
    ({ file with fpos := next } : Private).At bytes next := by
  refine ⟨here.file_eq, rfl, inside, fun mapped => ?_⟩
  rcases here.mapping mapped with ⟨other, covers⟩
  exact ⟨other, { covers with }⟩

theorem At.checkAndMapChunk (here : file.At bytes position) (pos : ℕ) :
    (file.checkAndMapChunk pos).At bytes position := by
  refine
    ⟨(checkAndMapChunk_kept pos file).1.trans here.file_eq,
      (checkAndMapChunk_kept pos file).2.trans here.fpos, here.inside, ?_⟩
  rw [Private.checkAndMapChunk]
  split
  · exact here.mapping
  · exact here.mapping_mapChunk pos

theorem At.mapChunk (here : file.At bytes position) (offset : ℕ) :
    (file.mapChunk offset).At bytes position :=
  ⟨(mapChunk_kept offset file).1.trans here.file_eq,
    (mapChunk_kept offset file).2.trans here.fpos, here.inside,
    here.mapping_mapChunk offset⟩

theorem opened_at (bytes : List UInt8) : (opened bytes).At bytes 0 :=
  At.mapChunk ⟨rfl, rfl, Nat.zero_le _, Bool.false_ne_true.elim⟩ 0

theorem At.eof_iff (here : file.At bytes position) :
    file.eof = true ↔ bytes.length ≤ position := by
  rw [eof, here.file_eq, here.fpos, decide_eq_true_iff]

theorem At.setFpos (here : file.At bytes position) {next : ℕ}
    (inside : next ≤ bytes.length) : (file.setFpos next).At bytes next := by
  rw [Private.setFpos, if_neg (by rw [here.file_eq]; omega), ensureMapped]
  split
  · exact (here.moved inside).mapChunk _
  · exact here.moved inside

theorem At.move (here : file.At bytes position)
    (inside : position + length ≤ bytes.length) :
    (file.move length).1 = true ∧
      (file.move length).2.At bytes (position + length) := by
  rw [Private.move, here.file_eq, here.fpos, if_neg (by omega)]
  exact ⟨rfl, (here.checkAndMapChunk _).moved inside⟩

/-- A value that crosses from one chunk into the next. -/
theorem At.readAcrossOneChunks (here : file.At bytes position)
    (short : length ≤ chunkSize)
    (inside : position + length ≤ bytes.length) (some : 0 < length) :
    (file.readAcrossOneChunks length position).1 =
        slice bytes position length ∧
      (file.readAcrossOneChunks length position).2.At bytes position := by
  have first := here.checkAndMapChunk position
  have covers :=
    here.checkAndMapChunk_covers (by omega : position < bytes.length)
  have starts := covers.starts
  have ends := covers.ends
  have size := covers.mappedSize
  rw [first.file_eq] at size
  rw [Private.readAcrossOneChunks, if_neg (by omega)]
  dsimp only
  rw [if_neg (by simp [covers.isMapped]; omega)]
  split
  · next within =>
    refine ⟨?_, first⟩
    rw [covers.slice_mappedMemory (by omega), first.file_eq]
  · next beyond =>
    have border :=
      covers.border
        (by omega :
          (file.checkAndMapChunk position).mappedSize = chunkSize)
    revert border
    generalize (position / chunkSize + 1) * chunkSize = start
    intro border
    rcases
        covers.slice_across short (by rw [first.file_eq]; omega) (by omega)
          border with
      ⟨next, offset, room, across⟩
    have nextEnds := next.ends
    rw [here.file_eq, ← border, if_neg (by omega), if_neg]
    · rw [across, first.file_eq]
      exact ⟨rfl, first.mapChunk start⟩
    · simp only [next.isMapped, offset, not_true_eq_false, false_or]
      omega

theorem At.readValue (here : file.At bytes position) {size : ℕ}
    (some : 0 < size) (short : size ≤ chunkSize)
    (inside : position + size ≤ bytes.length) :
    (file.readValue size).1 = slice bytes position size ∧
      (file.readValue size).2.At bytes (position + size) := by
  have first := here.checkAndMapChunk position
  have covers :=
    here.checkAndMapChunk_covers (by omega : position < bytes.length)
  have starts := covers.starts
  rw [Private.readValue, here.file_eq, here.fpos, if_neg (by omega)]
  dsimp only
  split
  · rcases first.readAcrossOneChunks short inside some with ⟨same, next⟩
    exact ⟨congrArg Option.some same, next.moved inside⟩
  · refine ⟨?_, first.moved inside⟩
    dsimp only
    rw [covers.slice_mappedMemory (by omega), first.file_eq]

theorem At.readLoop (here : file.At bytes position)
    (copied : List UInt8) {rounds remaining : ℕ}
    (enough : remaining ≤ rounds)
    (inside : position + remaining ≤ bytes.length) :
    ∃ next,
      file.readLoop rounds remaining copied =
          some (copied ++ slice bytes position remaining, next) ∧
        next.At bytes (position + remaining) := by
  induction rounds generalizing file position remaining copied with
  | zero =>
      obtain rfl : remaining = 0 := by omega
      exact ⟨file, by simp [Private.readLoop], here⟩
  | succ rounds induction =>
      rw [Private.readLoop]
      split
      · next ended =>
        subst ended
        exact ⟨file, by simp, here⟩
      · next goesOn =>
        have first := here.checkAndMapChunk position
        have covers :=
          here.checkAndMapChunk_covers
            (by omega : position < bytes.length)
        have starts := covers.starts
        have ends := covers.ends
        rw [here.fpos]
        dsimp only
        rw [first.fpos]
        generalize toRead :
          min remaining
            ((file.checkAndMapChunk position).mappedSize -
              (position - (file.checkAndMapChunk position).mappedOffset)) =
            count
        rcases
            induction
              (first.moved (by omega : position + count ≤ bytes.length))
              (copied ++ slice bytes position count)
              (by omega : remaining - count ≤ rounds) (by omega) with
          ⟨next, read, reached⟩
        rw [Nat.add_assoc, Nat.add_sub_cancel' (by omega)] at reached
        rw [List.append_assoc, ← slice_add,
          Nat.add_sub_cancel' (by omega)] at read
        refine ⟨next, ?_, reached⟩
        rw [covers.slice_mappedMemory (by omega), first.file_eq]
        rw [first.file_eq] at read
        exact read

theorem At.readInto (here : file.At bytes position)
    (inside : position + length ≤ bytes.length) :
    ∃ next,
      file.readInto length length =
          some (some (slice bytes position length), next) ∧
        next.At bytes (position + length) := by
  rw [Private.readInto]
  split
  · next nothing =>
    subst nothing
    exact ⟨file, rfl, here⟩
  · rcases here.readLoop [] (Nat.le_refl _) inside with ⟨next, read, reached⟩
    rw [here.file_eq, here.fpos, if_neg (by omega), read]
    exact ⟨next, rfl, reached⟩

end Private

/-! ## Sequences of accesses -/

/-- The operations on an open file. -/
inductive Access where
  | value (size : ℕ)
  | into (length : ℕ)
  | move (length : ℕ)
  | seek (position : ℕ)
deriving DecidableEq

/-- What is copied out; a loop that does not end gives no answer. -/
abbrev Answer := Option (Option (List UInt8))

/-- The file behind its mapping. -/
def mappedFile : Reactor Private Access Answer where
  step file
    | .value size =>
        ((file.readValue size).2, [some (file.readValue size).1])
    | .into length =>
        match file.readInto length length with
        | none => (file, [none])
        | some (copied, next) => (next, [some copied])
    | .move length =>
        ((file.move length).2,
          [some (if (file.move length).1 then some [] else none)])
    | .seek position => (file.setFpos position, [])

/-- A file as a sequence of bytes, at a position. -/
def plainFile (bytes : List UInt8) : Reactor ℕ Access Answer where
  step position
    | .value size | .into size =>
        if bytes.length < position + size then (position, [some none])
        else (position + size, [some (slice bytes position size)])
    | .move length =>
        if bytes.length < position + length then (position, [some none])
        else (position + length, [some (some [])])
    | .seek target =>
        (if bytes.length < target then position else target, [])

/-- A structure that `read` is used for. -/
def Access.Structured : Access → Prop
  | .value size => 0 < size ∧ size ≤ chunkSize
  | _ => True

theorem mappedFile_step {file : Private} {bytes : List UInt8}
    {position : ℕ} (here : file.At bytes position) (access : Access)
    (structured : access.Structured) :
    (mappedFile.step file access).1.At bytes
        ((plainFile bytes).step position access).1 ∧
      (mappedFile.step file access).2 =
        ((plainFile bytes).step position access).2 := by
  cases access with
  | value size =>
      by_cases beyond : bytes.length < position + size
      · have same : file.readValue size = (none, file) := by
          rw [Private.readValue, here.file_eq, here.fpos, if_pos beyond]
        simp only [mappedFile, plainFile, same, if_pos beyond]
        exact ⟨here, trivial⟩
      · rcases
            here.readValue structured.1 structured.2
              (Nat.not_lt.mp beyond) with
          ⟨copied, next⟩
        simp only [mappedFile, plainFile, copied, if_neg beyond]
        exact ⟨next, trivial⟩
  | into length =>
      by_cases beyond : bytes.length < position + length
      · have inside := here.inside
        have same : file.readInto length length = some (none, file) := by
          rw [Private.readInto, here.file_eq, here.fpos,
            if_neg (by omega), if_pos beyond]
        simp only [mappedFile, plainFile, same, if_pos beyond]
        exact ⟨here, trivial⟩
      · rcases here.readInto (Nat.not_lt.mp beyond) with
          ⟨next, copied, reached⟩
        simp only [mappedFile, plainFile, copied, if_neg beyond]
        exact ⟨reached, trivial⟩
  | move length =>
      by_cases beyond : bytes.length < position + length
      · have same : file.move length = (false, file) := by
          rw [Private.move, here.file_eq, here.fpos, if_pos beyond]
        simp only [mappedFile, plainFile, same, if_pos beyond]
        exact ⟨here, rfl⟩
      · rcases here.move (Nat.not_lt.mp beyond) with ⟨moved, next⟩
        simp only [mappedFile, plainFile, moved, if_neg beyond]
        exact ⟨next, rfl⟩
  | seek target =>
      refine ⟨?_, rfl⟩
      by_cases beyond : bytes.length < target
      · simp only [mappedFile, plainFile, if_pos beyond]
        rw [Private.setFpos, here.file_eq, if_pos beyond]
        exact here
      · simp only [mappedFile, plainFile, if_neg beyond]
        exact here.setFpos (Nat.not_lt.mp beyond)

/--
Whatever is read, skipped or sought, in files of any length, the chunks that
are mapped one at a time never show.
-/
theorem mapped_reads_agree
    (bytes : List UInt8) (accesses : List Access)
    (structured : ∀ access ∈ accesses, access.Structured) :
    mappedFile.outputs (Private.opened bytes) accesses =
      (plainFile bytes).outputs 0 accesses := by
  have simulated :
      ∀ file position access,
        Private.At file bytes position → Access.Structured access →
          (mappedFile.step file access).1.At bytes
              ((plainFile bytes).step position access).1 ∧
            (mappedFile.step file access).2 =
              ((plainFile bytes).step position access).2 :=
    fun _ _ access here structured => mappedFile_step here access structured
  exact
    mappedFile.outputs_eq_of_related (plainFile bytes) simulated
      (Private.opened_at bytes) structured

/-- Two chunks and a bit, with reads across their borders and past the end. -/
theorem mapped_reads_agree_border :
    mappedFile.outputs
        (Private.opened
          (List.replicate (chunkSize - 2) 1 ++
            List.replicate (chunkSize + 5) 2))
        [.seek (chunkSize - 4), .value 8, .seek 3, .into (2 * chunkSize - 2),
          .into 3, .move 2] =
      (plainFile
          (List.replicate (chunkSize - 2) 1 ++
            List.replicate (chunkSize + 5) 2)).outputs
        0
        [.seek (chunkSize - 4), .value 8, .seek 3, .into (2 * chunkSize - 2),
          .into 3, .move 2] :=
  mapped_reads_agree _ _
    (by
      simp only [List.forall_mem_cons, Access.Structured, true_and, and_true,
        List.not_mem_nil, false_implies, implies_true]
      decide)

end Go2Navigation.Lidar
