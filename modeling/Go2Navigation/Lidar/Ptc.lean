import Go2Navigation.Foundation.Encoding
import Mathlib.Algebra.Group.Nat.Defs
import Mathlib.Order.Nat

/-!
# Commands to the lidar

A command of the lidar's control protocol is a header, whose first two bytes
identify the protocol version, and a payload.  `QueryCommand` sends one over a
stream socket and reads the reply in whatever pieces the socket returns: it
searches the pieces for the identifiers, completes the header, and completes
the payload.  What was under way before the query is read like the rest, since
the attempt to drop it asks the socket for urgent data, of which there are none.
-/

namespace Go2Navigation.Lidar

open Go2Navigation.Foundation

/-- The two versions of the protocol, by the parser of each. -/
inductive PtcParser where
  | v1
  | v2
deriving DecidableEq

namespace PtcParser

def identifier0 : PtcParser → UInt8
  | v1 => 0x47
  | v2 => 0x57

def identifier1 : PtcParser → UInt8
  | v1 => 0x74
  | v2 => 0x75

def headerSize : PtcParser → ℕ
  | v1 => 8
  | v2 => 12

/-- The header `init` prepares, with the length of its payload. -/
def header (parser : PtcParser) (cmd : UInt8) (payloadLen : UInt32) :
    List UInt8 :=
  match parser with
  | v1 => [0x47, 0x74, cmd, 0] ++ bigEndian payloadLen
  | v2 => [0x57, 0x75, 1, cmd, 0, 0, 0, 0] ++ bigEndian payloadLen

def ptcStreamEncode (parser : PtcParser) (payload : List UInt8)
    (u8Cmd : UInt8) : List UInt8 :=
  parser.header u8Cmd (UInt32.ofNat payload.length) ++ payload

def isValidIdentifier (parser : PtcParser) (header : List UInt8) : Bool :=
  header.getD 0 0 == parser.identifier0 &&
    header.getD 1 0 == parser.identifier1

def getCmd : PtcParser → List UInt8 → UInt8
  | v1, header => header.getD 2 0
  | v2, header => header.getD 3 0

def getReturnCode : PtcParser → List UInt8 → UInt8
  | v1, header => header.getD 3 0
  | v2, header => header.getD 4 0

def isValidReturnCode (parser : PtcParser) (header : List UInt8) : Bool :=
  parser.isValidIdentifier header && parser.getReturnCode header == 0

/-- The last four bytes of the header, from network byte order. -/
def getPayloadLen : PtcParser → List UInt8 → UInt32
  | v1, header =>
      wordOfBytes (header.getD 7 0) (header.getD 6 0) (header.getD 5 0)
        (header.getD 4 0)
  | v2, header =>
      wordOfBytes (header.getD 11 0) (header.getD 10 0) (header.getD 9 0)
        (header.getD 8 0)

/-- The bytes received from the first pair of identifiers on. -/
def fromIdentifiers (parser : PtcParser) : List UInt8 → Option (List UInt8)
  | first :: second :: rest =>
      if first = parser.identifier0 ∧ second = parser.identifier1 then
        some (first :: second :: rest)
      else fromIdentifiers parser (second :: rest)
  | _ => none

end PtcParser

/--
Bytes under way, and how many of them each call of `recv` finds; it fails if it
finds none.  The lidar sends no urgent data and leaves the connection open.
-/
structure Connection where
  pending : List UInt8
  grants : List ℕ
deriving DecidableEq

/-- `MSG_OOB`, the lowest bit of the flags of `recv`. -/
def msgOob : ℕ := 0x01

/-- `recv`, which fails where it is asked for urgent data. -/
def Connection.recv (connection : Connection) (len flags : ℕ) :
    List UInt8 × Connection :=
  match connection.grants with
  | [] => ([], connection)
  | grant :: grants =>
      if flags &&& msgOob ≠ 0 then ([], connection)
      else
        let chunk := connection.pending.take (min grant len)
        (chunk, ⟨connection.pending.drop chunk.length, grants⟩)

/--
`TcpClient::Receive` on an open connection, with the bytes it has received.
The flags that `fcntl` returns hide the parameter inside their block only, so
that the parameter reaches `recv` as it is, 0xFF included.
-/
def Connection.receive (connection : Connection) (u32Len flags : ℕ) :
    List UInt8 × Connection :=
  connection.recv u32Len flags

/-- The loop that reads the header, with the part of it found so far. -/
def receiveHeader (parser : PtcParser) :
    List ℕ → List UInt8 → List UInt8 → List UInt8 × Connection
  | [], pending, header => (header, ⟨pending, []⟩)
  | grant :: grants, pending, header =>
      let nLeft := parser.headerSize - header.length
      let connection : Connection := ⟨pending, grant :: grants⟩
      let received := connection.receive nLeft 0
      if nLeft = 0 then (header, connection)
      else if received.1 = [] then (header, received.2)
      else if header = [] then
        receiveHeader parser grants received.2.pending
          ((parser.fromIdentifiers received.1).getD [])
      else
        receiveHeader parser grants received.2.pending
          (header ++ received.1)

/-- The loop that reads the payload, with what is left and what there is. -/
def receiveBody :
    List ℕ → List UInt8 → ℕ → List UInt8 → List UInt8 × Connection
  | [], pending, _, body => (body, ⟨pending, []⟩)
  | grant :: grants, pending, nLeft, body =>
      let connection : Connection := ⟨pending, grant :: grants⟩
      let received := connection.receive nLeft 0
      if nLeft = 0 then (body, connection)
      else if received.1 = [] then (body, received.2)
      else
        receiveBody grants received.2.pending
          (nLeft - received.1.length) (body ++ received.1)

/-- `TcpFlushIn`, which goes on as long as something is received. -/
def tcpFlushIn : List ℕ → List UInt8 → Connection
  | [], pending => ⟨pending, []⟩
  | grant :: grants, pending =>
      let connection : Connection := ⟨pending, grant :: grants⟩
      let received := connection.receive 1500 0xFF
      if received.1 = [] then received.2
      else tcpFlushIn grants received.2.pending

/-- What `QueryCommand` returns, stores and leaves behind. -/
structure QueryResult where
  ret : ℤ
  retCode : Option ℤ
  byteStreamOut : List UInt8
  connection : Connection
deriving DecidableEq

/-- The header buffer, which starts as zeros, after what was found of it. -/
def PtcParser.headerBuf (parser : PtcParser) (header : List UInt8) :
    List UInt8 :=
  header ++ List.replicate (parser.headerSize - header.length) 0

/-- The output of a call that reads no payload. -/
def PtcParser.outputWithoutBody
    (parser : PtcParser) (header byteStreamOut : List UInt8)
    (isHaveHeader : Bool) : List UInt8 :=
  if isHaveHeader then parser.headerBuf header else byteStreamOut

/-- `static_cast<int>` of an unsigned word. -/
def intOfWord (word : UInt32) : ℤ :=
  word.toBitVec.toInt

/-- The part of `QueryCommand` after the header is complete. -/
def PtcParser.receivePayload
    (parser : PtcParser) (header byteStreamOut : List UInt8)
    (connection : Connection) (u8Cmd : UInt8) (isHaveHeader : Bool) :
    QueryResult :=
  let without := parser.outputWithoutBody header byteStreamOut isHaveHeader
  if !parser.isValidReturnCode header || parser.getCmd header != u8Cmd then
    ⟨-1, some (parser.getReturnCode header).toNat, without, connection⟩
  else
    let nPayLoadLen := intOfWord (parser.getPayloadLen header)
    if 0 < nPayLoadLen then
      let body :=
        receiveBody connection.grants connection.pending
          nPayLoadLen.toNat []
      if body.1.length < nPayLoadLen then
        ⟨-1, some (-3), byteStreamOut, body.2⟩
      else
        ⟨0, none, (if isHaveHeader then header else []) ++ body.1, body.2⟩
    else ⟨0, none, without, connection⟩

/-- The part of `QueryCommand` after the command is sent. -/
def PtcParser.receiveReply
    (parser : PtcParser) (byteStreamOut : List UInt8)
    (connection : Connection) (u8Cmd : UInt8) (isHaveHeader : Bool) :
    QueryResult :=
  let found := receiveHeader parser connection.grants connection.pending []
  if found.1.length < parser.headerSize then
    ⟨-1, some (-2),
      parser.outputWithoutBody found.1 byteStreamOut isHaveHeader, found.2⟩
  else
    parser.receivePayload found.1 byteStreamOut found.2 u8Cmd isHaveHeader

/--
`QueryCommand` on an open connection.  `send` tells how many bytes of a buffer
of at most 65535 bytes the socket takes.
-/
def PtcParser.queryCommand
    (parser : PtcParser) (send : List UInt8 → ℤ)
    (connection : Connection) (byteStreamIn byteStreamOut : List UInt8)
    (u8Cmd : UInt8) (isHaveHeader : Bool) : QueryResult :=
  let encoded := parser.ptcStreamEncode byteStreamIn u8Cmd
  let flushed := tcpFlushIn connection.grants connection.pending
  let nLen := send (encoded.take (encoded.length % 65536))
  if nLen ≠ encoded.length then
    ⟨-1, some (-4), parser.outputWithoutBody [] byteStreamOut isHaveHeader,
      flushed⟩
  else parser.receiveReply byteStreamOut flushed u8Cmd isHaveHeader

/-! ## The search for the identifiers -/

namespace PtcParser

theorem identifiers_ne (parser : PtcParser) :
    parser.identifier0 ≠ parser.identifier1 := by
  cases parser <;> decide

theorem headerSize_pos (parser : PtcParser) : 1 < parser.headerSize := by
  cases parser <;> decide

theorem fromIdentifiers_cons
    (parser : PtcParser) (first second : UInt8) (rest : List UInt8) :
    parser.fromIdentifiers (first :: second :: rest) =
      if first = parser.identifier0 ∧ second = parser.identifier1 then
        some (first :: second :: rest)
      else parser.fromIdentifiers (second :: rest) :=
  rfl

/-- Bytes without the pair have no prefix with the pair. -/
theorem fromIdentifiers_of_append
    {parser : PtcParser} {left right : List UInt8}
    (quiet : parser.fromIdentifiers (left ++ right) = none) :
    parser.fromIdentifiers left = none := by
  induction left with
  | nil => rfl
  | cons first left induction =>
      cases left with
      | nil => rfl
      | cons second left =>
          rw [List.cons_append, List.cons_append, fromIdentifiers_cons]
            at quiet
          rw [fromIdentifiers_cons]
          split_ifs at quiet ⊢
          exact induction quiet

/-- Bytes without the pair have no suffix with the pair. -/
theorem fromIdentifiers_of_append_right
    {parser : PtcParser} {left right : List UInt8}
    (quiet : parser.fromIdentifiers (left ++ right) = none) :
    parser.fromIdentifiers right = none := by
  induction left with
  | nil => exact quiet
  | cons first left induction =>
      refine induction ?_
      cases h : left ++ right with
      | nil => rfl
      | cons second rest =>
          rw [List.cons_append, h, fromIdentifiers_cons] at quiet
          split_ifs at quiet
          exact quiet

/-- The first identifier alone completes no pair. -/
theorem fromIdentifiers_append_singleton
    {parser : PtcParser} {junk : List UInt8}
    (quiet : parser.fromIdentifiers junk = none) :
    parser.fromIdentifiers (junk ++ [parser.identifier0]) = none := by
  induction junk with
  | nil => rfl
  | cons first junk induction =>
      cases junk with
      | nil =>
          have apart := parser.identifiers_ne
          simp [fromIdentifiers, apart]
      | cons second junk =>
          rw [fromIdentifiers_cons] at quiet
          rw [List.cons_append, List.cons_append, fromIdentifiers_cons]
          split_ifs at quiet ⊢
          exact induction quiet

/-- The search skips bytes without the pair. -/
theorem fromIdentifiers_append
    {parser : PtcParser} {junk : List UInt8} (rest : List UInt8)
    (quiet : parser.fromIdentifiers junk = none) :
    parser.fromIdentifiers
        (junk ++ parser.identifier0 :: parser.identifier1 :: rest) =
      some (parser.identifier0 :: parser.identifier1 :: rest) := by
  induction junk with
  | nil => simp [fromIdentifiers]
  | cons first junk induction =>
      cases junk with
      | nil =>
          have apart := parser.identifiers_ne
          simp [fromIdentifiers, apart]
      | cons second junk =>
          rw [fromIdentifiers_cons] at quiet
          rw [List.cons_append, List.cons_append, fromIdentifiers_cons]
          split_ifs at quiet ⊢
          exact induction quiet

theorem length_fromIdentifiers_le
    {parser : PtcParser} {bytes found : List UInt8}
    (finds : parser.fromIdentifiers bytes = some found) :
    found.length ≤ bytes.length := by
  induction bytes with
  | nil => cases finds
  | cons first bytes induction =>
      cases bytes with
      | nil => cases finds
      | cons second bytes =>
          rw [fromIdentifiers_cons] at finds
          split_ifs at finds
          · cases finds
            exact le_rfl
          · exact (induction finds).trans (Nat.le_succ _)

end PtcParser

/-! ## The loops -/

/-- Without flags a call of `Receive` takes what it finds. -/
theorem Connection.receive_cons
    (pending : List UInt8) (grant : ℕ) (grants : List ℕ) (u32Len : ℕ) :
    (⟨pending, grant :: grants⟩ : Connection).receive u32Len 0 =
      (pending.take (min grant u32Len),
        ⟨pending.drop (pending.take (min grant u32Len)).length, grants⟩) :=
  rfl

/-- Nothing is dropped: the one call of `recv` fails. -/
theorem tcpFlushIn_eq (grants : List ℕ) (pending : List UInt8) :
    tcpFlushIn grants pending = ⟨pending, grants⟩ := by
  cases grants with
  | nil => rfl
  | cons grant grants => rfl

theorem take_append_drop_length
    {Item : Type} (count : ℕ) (items : List Item) :
    items.take count ++ items.drop (items.take count).length = items := by
  rw [List.length_take]
  rcases Nat.le_total count items.length with short | long
  · rw [Nat.min_eq_left short, List.take_append_drop]
  · rw [Nat.min_eq_right long, List.take_of_length_le long, List.drop_length,
      List.append_nil]

/-- The header and what is still pending were pending before. -/
theorem length_receiveHeader_le
    (parser : PtcParser) (grants : List ℕ) (pending header : List UInt8) :
    (receiveHeader parser grants pending header).1.length +
        (receiveHeader parser grants pending header).2.pending.length ≤
      pending.length + header.length := by
  induction grants generalizing pending header with
  | nil => simp [receiveHeader, Nat.add_comm]
  | cons grant grants induction =>
      rw [receiveHeader, Connection.receive_cons]
      split_ifs with complete closed searching
      · simp [Nat.add_comm]
      · have closed : pending.take (min grant _) = [] := closed
        simp [closed, Nat.add_comm]
      · refine (induction _ _).trans ?_
        cases finds : parser.fromIdentifiers
            (pending.take (min grant (parser.headerSize - header.length)))
          with
        | none =>
            simp only [Option.getD_none, List.length_drop, List.length_nil]
            omega
        | some found =>
            have bound := PtcParser.length_fromIdentifiers_le finds
            simp only [Option.getD_some, List.length_drop, List.length_take]
              at bound ⊢
            omega
      · refine (induction _ _).trans ?_
        simp only [List.length_drop, List.length_take, List.length_append]
        omega

theorem length_receiveBody
    (grants : List ℕ) (pending : List UInt8) (nLeft : ℕ)
    (body : List UInt8) :
    (receiveBody grants pending nLeft body).1.length +
        (receiveBody grants pending nLeft body).2.pending.length =
      pending.length + body.length := by
  induction grants generalizing pending nLeft body with
  | nil => simp [receiveBody, Nat.add_comm]
  | cons grant grants induction =>
      rw [receiveBody, Connection.receive_cons]
      split_ifs with complete closed
      · simp [Nat.add_comm]
      · have closed : pending.take (min grant nLeft) = [] := closed
        simp [closed, Nat.add_comm]
      · rw [induction]
        simp only [List.length_drop, List.length_take, List.length_append]
        omega

/-- A socket that returns something as long as something is under way. -/
def Responsive (grants : List ℕ) : Prop :=
  ∀ grant ∈ grants, 0 < grant

/-- Once its identifiers are found, the header is completed. -/
theorem receiveHeader_complete
    {parser : PtcParser} {grants : List ℕ}
    {pending found header rest : List UInt8}
    (started : found ≠ []) (split : found ++ pending = header ++ rest)
    (size : header.length = parser.headerSize)
    (within : found.length ≤ parser.headerSize)
    (responsive : Responsive grants)
    (enough : parser.headerSize - found.length ≤ grants.length) :
    ∃ left, receiveHeader parser grants pending found =
        (header, ⟨rest, left⟩) ∧
      Responsive left ∧
      grants.length ≤ left.length + (parser.headerSize - found.length) := by
  induction grants generalizing pending found with
  | nil =>
      rw [List.length_nil] at enough
      have sameLength : found.length = header.length := by omega
      rcases List.append_inj split sameLength with ⟨rfl, rfl⟩
      exact ⟨[], rfl, responsive, by simp⟩
  | cons grant grants induction =>
      have positive := responsive grant List.mem_cons_self
      have responsiveRest : Responsive grants := fun other member =>
        responsive other (List.mem_cons_of_mem _ member)
      rw [receiveHeader, Connection.receive_cons]
      split_ifs with complete closed
      · have sameLength : found.length = header.length := by omega
        rcases List.append_inj split sameLength with ⟨rfl, rfl⟩
        exact ⟨_, rfl, responsive, by simp⟩
      · have total := congrArg List.length split
        have none := congrArg List.length closed
        simp only [List.length_append, List.length_take, List.length_nil]
          at total none
        omega
      · have total := congrArg List.length split
        simp only [List.length_append] at total
        have chunkLength :
            (pending.take
              (min grant (parser.headerSize - found.length))).length =
              min grant (parser.headerSize - found.length) := by
          rw [List.length_take]
          omega
        rw [List.length_cons] at enough ⊢
        have splitNext :=
          (congrArg (found ++ ·) (take_append_drop_length
            (min grant (parser.headerSize - found.length)) pending)).trans
            split
        rw [← List.append_assoc] at splitNext
        rcases
            induction (by simp [started]) splitNext
              (by rw [List.length_append, chunkLength]; omega)
              responsiveRest
              (by rw [List.length_append, chunkLength]; omega) with
          ⟨left, result, leftResponsive, long⟩
        refine ⟨left, result, leftResponsive, ?_⟩
        rw [List.length_append, chunkLength] at long
        omega

/-- The payload is completed, and nothing after it is read. -/
theorem receiveBody_complete
    {grants : List ℕ} {pending body payload rest : List UInt8} {nLeft : ℕ}
    (split : body ++ pending = payload ++ rest)
    (size : payload.length = body.length + nLeft)
    (responsive : Responsive grants) (enough : nLeft ≤ grants.length) :
    ∃ left, receiveBody grants pending nLeft body =
      (payload, ⟨rest, left⟩) := by
  induction grants generalizing pending body nLeft with
  | nil =>
      rw [List.length_nil] at enough
      rcases List.append_inj split (by omega) with ⟨rfl, rfl⟩
      exact ⟨[], rfl⟩
  | cons grant grants induction =>
      have positive := responsive grant List.mem_cons_self
      have total := congrArg List.length split
      simp only [List.length_append] at total
      rw [List.length_cons] at enough
      rw [receiveBody, Connection.receive_cons]
      split_ifs with complete closed
      · rcases List.append_inj split (by omega) with ⟨rfl, rfl⟩
        exact ⟨_, rfl⟩
      · have none := congrArg List.length closed
        simp only [List.length_take, List.length_nil] at none
        omega
      · have chunkLength :
            (pending.take (min grant nLeft)).length = min grant nLeft := by
          rw [List.length_take]
          omega
        have splitNext :=
          (congrArg (body ++ ·)
            (take_append_drop_length (min grant nLeft) pending)).trans split
        rw [← List.append_assoc] at splitNext
        exact
          induction splitNext
            (by rw [List.length_append, chunkLength]; omega)
            (fun other member =>
              responsive other (List.mem_cons_of_mem _ member))
            (by rw [chunkLength]; omega)

/-- A piece of the search ends between the two identifiers. -/
def PtcParser.Separates (parser : PtcParser) : List ℕ → ℕ → Prop
  | [], _ => False
  | grant :: grants, junk =>
      min grant parser.headerSize = junk + 1 ∨
        min grant parser.headerSize ≤ junk ∧
          parser.Separates grants (junk - min grant parser.headerSize)

/-- A header that starts with the identifiers. -/
structure PtcParser.IsHeader (parser : PtcParser) (header : List UInt8) :
    Prop where
  size : header.length = parser.headerSize
  identifiers :
    ∃ rest, header = parser.identifier0 :: parser.identifier1 :: rest

/-- A piece that reaches past both identifiers is cut down to the header. -/
theorem PtcParser.fromIdentifiers_take
    {parser : PtcParser} {junk header : List UInt8} (rest : List UInt8)
    (quiet : parser.fromIdentifiers junk = none)
    (valid : parser.IsHeader header) {count : ℕ}
    (beyond : junk.length + 2 ≤ count) (within : count ≤ parser.headerSize) :
    (junk ++ (header ++ rest)).take count =
        junk ++ header.take (count - junk.length) ∧
      parser.fromIdentifiers (junk ++ header.take (count - junk.length)) =
        some (header.take (count - junk.length)) := by
  constructor
  · rw [List.take_append, List.take_of_length_le (by omega),
      List.take_append_of_le_length (by rw [valid.size]; omega)]
  · rcases valid.identifiers with ⟨tail, rfl⟩
    obtain ⟨more, moreEq⟩ : ∃ more, count - junk.length = more + 2 :=
      ⟨count - junk.length - 2, by omega⟩
    rw [moreEq]
    exact PtcParser.fromIdentifiers_append _ quiet

/-- A piece without the identifiers is skipped. -/
theorem receiveHeader_skip
    {parser : PtcParser} {grant : ℕ} {junk : List UInt8}
    (grants : List ℕ) (rest : List UInt8)
    (quiet : parser.fromIdentifiers junk = none) (positive : 0 < grant)
    (inside : min grant parser.headerSize ≤ junk.length) :
    receiveHeader parser (grant :: grants) (junk ++ rest) [] =
        receiveHeader parser grants
          (junk.drop (min grant parser.headerSize) ++ rest) [] ∧
      parser.fromIdentifiers (junk.drop (min grant parser.headerSize)) =
        none := by
  have positiveSize := parser.headerSize_pos
  have chunkLength :
      (junk.take (min grant parser.headerSize)).length =
        min grant parser.headerSize := by
    rw [List.length_take]
    omega
  have received : ¬ junk.take (min grant parser.headerSize) = [] := by
    intro empty
    rw [empty, List.length_nil] at chunkLength
    omega
  rw [← List.take_append_drop (min grant parser.headerSize) junk] at quiet
  refine ⟨?_, PtcParser.fromIdentifiers_of_append_right quiet⟩
  rw [receiveHeader, Connection.receive_cons, List.length_nil, Nat.sub_zero,
    List.take_append_of_le_length inside, if_neg (by omega),
    if_neg received, if_pos rfl, PtcParser.fromIdentifiers_of_append quiet,
    chunkLength, List.drop_append_of_le_length inside]
  rfl

theorem receiveHeader_search
    {parser : PtcParser} {grants : List ℕ} {junk header : List UInt8}
    (rest : List UInt8) (quiet : parser.fromIdentifiers junk = none)
    (valid : parser.IsHeader header) (responsive : Responsive grants)
    (enough : junk.length + parser.headerSize ≤ grants.length)
    (together : ¬ parser.Separates grants junk.length) :
    ∃ left, receiveHeader parser grants (junk ++ (header ++ rest)) [] =
        (header, ⟨rest, left⟩) ∧
      Responsive left ∧
      grants.length ≤ left.length + (junk.length + parser.headerSize) := by
  have positiveSize := parser.headerSize_pos
  induction grants generalizing junk with
  | nil =>
      rw [List.length_nil] at enough
      omega
  | cons grant grants induction =>
      have positive := responsive grant List.mem_cons_self
      have responsiveRest : Responsive grants := fun other member =>
        responsive other (List.mem_cons_of_mem _ member)
      rw [List.length_cons] at enough ⊢
      rw [PtcParser.Separates, not_or, not_and] at together
      rcases together with ⟨apart, together⟩
      rcases Nat.lt_or_ge junk.length (min grant parser.headerSize) with
        beyond | inside
      · rcases
            PtcParser.fromIdentifiers_take rest quiet valid
              (by omega : junk.length + 2 ≤ min grant parser.headerSize)
              (by omega)
          with ⟨chunk, found⟩
        have headerLength := valid.size
        have foundLength :
            (header.take
              (min grant parser.headerSize - junk.length)).length =
              min grant parser.headerSize - junk.length := by
          rw [List.length_take]
          omega
        have received :
            ¬ junk ++
                header.take (min grant parser.headerSize - junk.length) =
              [] := by
          intro empty
          have none := congrArg List.length empty
          rw [List.length_append, foundLength, List.length_nil] at none
          omega
        have started :
            header.take (min grant parser.headerSize - junk.length) ≠
              [] := by
          intro empty
          rw [empty, List.length_nil] at foundLength
          omega
        have left :
            (junk ++ (header ++ rest)).drop
                (junk ++ header.take
                  (min grant parser.headerSize - junk.length)).length =
              header.drop (min grant parser.headerSize - junk.length) ++
                rest := by
          rw [List.length_append, foundLength, List.drop_length_add_append,
            List.drop_append_of_le_length (by omega)]
        rw [receiveHeader, Connection.receive_cons, List.length_nil, Nat.sub_zero, chunk,
          if_neg (by omega), if_neg received, if_pos rfl, found, left]
        rcases
            receiveHeader_complete started
              (by rw [← List.append_assoc, List.take_append_drop])
              headerLength (by omega) responsiveRest (by omega) with
          ⟨left, result, leftResponsive, long⟩
        exact ⟨left, result, leftResponsive, by omega⟩
      · rcases
            receiveHeader_skip grants (header ++ rest) quiet positive inside
          with ⟨skipped, quietRest⟩
        rcases
            induction quietRest responsiveRest
              (by rw [List.length_drop]; omega)
              (by rw [List.length_drop]; exact together inside) with
          ⟨left, result, leftResponsive, long⟩
        refine ⟨left, skipped.trans result, leftResponsive, ?_⟩
        rw [List.length_drop] at long
        omega

/-- A piece that ends between the identifiers costs at least one byte. -/
theorem receiveHeader_separated
    {parser : PtcParser} {grants : List ℕ} {junk header : List UInt8}
    (rest : List UInt8) (quiet : parser.fromIdentifiers junk = none)
    (valid : parser.IsHeader header) (responsive : Responsive grants)
    (separates : parser.Separates grants junk.length) :
    (receiveHeader parser grants (junk ++ (header ++ rest)) []).1.length +
        (receiveHeader parser grants
          (junk ++ (header ++ rest)) []).2.pending.length <
      header.length + rest.length := by
  induction grants generalizing junk with
  | nil => exact separates.elim
  | cons grant grants induction =>
      rcases separates with ends | ⟨inside, separates⟩
      · have chunk :
            (junk ++ (header ++ rest)).take (min grant parser.headerSize) =
              junk ++ [parser.identifier0] := by
          rcases valid.identifiers with ⟨tail, rfl⟩
          rw [ends, List.take_length_add_append]
          rfl
        have positiveSize := parser.headerSize_pos
        rw [receiveHeader, Connection.receive_cons, List.length_nil, Nat.sub_zero, chunk,
          if_neg (by omega), if_neg (by simp), if_pos rfl,
          PtcParser.fromIdentifiers_append_singleton quiet]
        have headerLength := valid.size
        refine (length_receiveHeader_le parser grants _ []).trans_lt ?_
        simp only [List.length_drop, List.length_append, List.length_nil,
          List.length_singleton]
        omega
      · rcases
            receiveHeader_skip grants (header ++ rest) quiet
              (responsive grant List.mem_cons_self) inside with
          ⟨skipped, quietRest⟩
        rw [skipped]
        refine
          induction quietRest
            (fun other member =>
              responsive other (List.mem_cons_of_mem _ member)) ?_
        rw [List.length_drop]
        exact separates

/-! ## Replies -/

/-- A header that answers a command and announces a payload. -/
structure PtcParser.IsReply
    (parser : PtcParser) (header : List UInt8) (u8Cmd : UInt8)
    (payloadLen : ℕ) : Prop extends parser.IsHeader header where
  returnCode : parser.getReturnCode header = 0
  cmd : parser.getCmd header = u8Cmd
  payloadLen : (parser.getPayloadLen header).toNat = payloadLen

theorem PtcParser.IsReply.valid
    {parser : PtcParser} {header : List UInt8} {u8Cmd : UInt8}
    {payloadLen : ℕ} (reply : parser.IsReply header u8Cmd payloadLen) :
    parser.isValidReturnCode header = true := by
  rcases reply.identifiers with ⟨rest, rfl⟩
  simp [isValidReturnCode, isValidIdentifier, reply.returnCode]

theorem PtcParser.IsReply.intOfWord
    {parser : PtcParser} {header : List UInt8} {u8Cmd : UInt8}
    {payloadLen : ℕ} (reply : parser.IsReply header u8Cmd payloadLen)
    (short : payloadLen < 2 ^ 31) :
    intOfWord (parser.getPayloadLen header) = payloadLen := by
  have word : (parser.getPayloadLen header).toBitVec.toNat = payloadLen :=
    reply.payloadLen
  rw [Lidar.intOfWord, BitVec.toInt_eq_toNat_of_lt (by omega), word]

/-- What a caller with an empty output buffer expects of a reply. -/
def expectedOutput
    (header payload : List UInt8) (isHaveHeader : Bool) : List UInt8 :=
  (if isHaveHeader then header else []) ++ payload

theorem PtcParser.receivePayload_reply
    {parser : PtcParser} {header payload later : List UInt8}
    {grants : List ℕ} {u8Cmd : UInt8} (isHaveHeader : Bool)
    (reply : parser.IsReply header u8Cmd payload.length)
    (short : payload.length < 2 ^ 31) (responsive : Responsive grants)
    (enough : payload.length ≤ grants.length) :
    ∃ left,
      parser.receivePayload header [] ⟨payload ++ later, grants⟩ u8Cmd
          isHaveHeader =
        ⟨0, none, expectedOutput header payload isHaveHeader,
          ⟨later, left⟩⟩ := by
  have announced := reply.intOfWord short
  simp only [receivePayload, reply.valid, reply.cmd, announced,
    Int.toNat_natCast, Bool.not_true, bne_self_eq_false, Bool.or_self,
    Bool.false_eq_true, if_false]
  by_cases some : 0 < (payload.length : ℤ)
  · have split : [] ++ (payload ++ later) = payload ++ later := rfl
    rcases receiveBody_complete split (by simp) responsive enough with
      ⟨left, body⟩
    rw [if_pos some, body, if_neg (Int.lt_irrefl _)]
    exact ⟨left, rfl⟩
  · have empty : payload = [] := List.length_eq_zero_iff.mp (by omega)
    rw [if_neg some]
    refine ⟨grants, ?_⟩
    cases isHaveHeader <;>
      simp [outputWithoutBody, headerBuf, expectedOutput, empty, reply.size]

/-- Whatever a successful call returns was pending before it. -/
theorem PtcParser.length_of_receivePayload
    {parser : PtcParser} {found header payload later : List UInt8}
    {connection : Connection} {u8Cmd : UInt8} {isHaveHeader : Bool}
    {left : List ℕ} (size : header.length = parser.headerSize)
    (complete : parser.headerSize ≤ found.length)
    (result :
      parser.receivePayload found [] connection u8Cmd isHaveHeader =
        ⟨0, none, expectedOutput header payload isHaveHeader,
          ⟨later, left⟩⟩) :
    header.length + (payload.length + later.length) ≤
      found.length + connection.pending.length := by
  rw [receivePayload] at result
  by_cases invalid :
      (!parser.isValidReturnCode found || parser.getCmd found != u8Cmd) =
        true
  · rw [if_pos invalid] at result
    cases result
  · rw [if_neg invalid] at result
    by_cases some : 0 < Lidar.intOfWord (parser.getPayloadLen found)
    · simp only [if_pos some] at result
      split at result
      · cases result
      · have consumed :=
          length_receiveBody connection.grants connection.pending
            (Lidar.intOfWord (parser.getPayloadLen found)).toNat []
        simp only [QueryResult.mk.injEq, true_and] at result
        rcases result with ⟨output, after⟩
        have lengths := congrArg List.length output
        rw [after, List.length_nil] at consumed
        cases isHaveHeader <;>
          simp only [expectedOutput, if_true, if_false, Bool.false_eq_true,
            List.nil_append, List.length_append] at lengths consumed <;>
          omega
    · simp only [if_neg some, QueryResult.mk.injEq, true_and] at result
      rcases result with ⟨output, after⟩
      have lengths := congrArg List.length output
      rw [after]
      cases isHaveHeader <;>
        simp only [expectedOutput, outputWithoutBody, headerBuf, if_true,
          if_false, Bool.false_eq_true, List.nil_append, List.length_append,
          List.length_replicate, List.length_nil] at lengths ⊢ <;>
        omega

/--
The first reply to the command that is under way, be it to this query or to an
earlier one, is returned in full, with nothing read past it, exactly if no piece
of the search ends between its two identifiers.
-/
theorem PtcParser.queryCommand_reply_iff
    (parser : PtcParser) (send : List UInt8 → ℤ)
    (byteStreamIn : List UInt8) (u8Cmd : UInt8) (isHaveHeader : Bool)
    (junk header payload later : List UInt8) (grants : List ℕ)
    (sent :
      send
          ((parser.ptcStreamEncode byteStreamIn u8Cmd).take
            ((parser.ptcStreamEncode byteStreamIn u8Cmd).length % 65536)) =
        (parser.ptcStreamEncode byteStreamIn u8Cmd).length)
    (quiet : parser.fromIdentifiers junk = none)
    (reply : parser.IsReply header u8Cmd payload.length)
    (short : payload.length < 2 ^ 31) (responsive : Responsive grants)
    (enough :
      junk.length + (header.length + payload.length) ≤ grants.length) :
    (∃ left,
        parser.queryCommand send
            ⟨junk ++ (header ++ (payload ++ later)), grants⟩ byteStreamIn []
            u8Cmd isHaveHeader =
          ⟨0, none, expectedOutput header payload isHaveHeader,
            ⟨later, left⟩⟩) ↔
      ¬ parser.Separates grants junk.length := by
  have size := reply.size
  simp only [queryCommand, sent, tcpFlushIn_eq, ne_eq, not_true_eq_false,
    if_false, receiveReply]
  constructor
  · rintro ⟨left, result⟩ separates
    have lost :=
      receiveHeader_separated (payload ++ later) quiet
        reply.toIsHeader responsive separates
    by_cases incomplete :
        (receiveHeader parser grants
          (junk ++ (header ++ (payload ++ later))) []).1.length <
            parser.headerSize
    · rw [if_pos incomplete] at result
      cases result
    · rw [if_neg incomplete] at result
      have kept :=
        length_of_receivePayload size (Nat.le_of_not_lt incomplete) result
      rw [List.length_append] at lost
      omega
  · intro together
    rcases
        receiveHeader_search (payload ++ later) quiet
          reply.toIsHeader responsive (by omega) together with
      ⟨left, found, leftResponsive, long⟩
    rw [found, if_neg (by simp [size])]
    exact
      receivePayload_reply isHaveHeader reply short leftResponsive (by omega)

def kPTCGetLidarCalibration : UInt8 := 0x05

/-- The reply to a calibration query, with three bytes of payload. -/
def calibrationReply : List UInt8 :=
  [0x47, 0x74, 0x05, 0, 0, 0, 0, 3]

/-- A stray byte and an old reply are under way, and then the reply. -/
theorem PtcParser.queryCommand_reply_iff_calibration :
    (∃ left,
        PtcParser.v1.queryCommand (fun bytes => bytes.length)
            ⟨[0x47] ++ (calibrationReply ++ ([1, 2, 3] ++
                (calibrationReply ++ [4, 5, 6]))),
              [5, 1, 9, 1, 1, 1, 1, 1, 1, 1, 1, 1]⟩
            [] [] kPTCGetLidarCalibration false =
          ⟨0, none, expectedOutput calibrationReply [1, 2, 3] false,
            ⟨calibrationReply ++ [4, 5, 6], left⟩⟩) ↔
      ¬ PtcParser.v1.Separates [5, 1, 9, 1, 1, 1, 1, 1, 1, 1, 1, 1] 1 :=
  PtcParser.v1.queryCommand_reply_iff _ _ _ _ [0x47] _ _ _ _ rfl rfl
    ⟨⟨rfl, _, rfl⟩, rfl, rfl, rfl⟩ (by decide)
    (by simp [Responsive]) (by decide)

end Go2Navigation.Lidar
