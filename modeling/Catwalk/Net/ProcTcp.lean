import Catwalk.Data.Numeral
import Catwalk.Data.Strings

/-! The socket tables that `netinfo.py` reads from `/proc/net`. -/

namespace Catwalk.Net

/-- `AF_INET`, `AF_INET6` -/
inductive Family
  | inet
  | inet6
  deriving DecidableEq

/-- `ValueError`, `struct.error` -/
inductive Failure
  | value
  | struct
  deriving DecidableEq

/-- A LISTEN row as it is reported. -/
structure Row where
  family : Family
  addr : Text
  port : Int
  inode : Int
  deriving DecidableEq

def stripSign : Text → Bool × Text
  | '-' :: later => (true, later)
  | '+' :: later => (false, later)
  | later => (false, later)

/-- The `0x` that a text in base 16 may begin with. -/
def stripBase (base : Nat) (text : Text) : Text :=
  if base = 16 ∧ (['0', 'x'] <+: text ∨ ['0', 'X'] <+: text) then
    removePrefix ['_'] (text.drop 2)
  else text

/-- `int(text, base)`, over the ASCII digits. -/
def int (base : Nat) (text : Text) : Except Failure Int :=
  let (negative, digits) := stripSign (strip text)
  match Numeral.readDigits base 0 true (stripBase base digits) with
  | none => .error .value
  | some number => .ok (if negative then -number else number)

/-- `struct.pack("<I", number)` -/
def pack (number : Int) : Except Failure (List UInt8) :=
  if 0 ≤ number ∧ number < 2 ^ 32 then .ok (Numeral.bytes 4 number.toNat)
  else .error .struct

/-- `socket.inet_ntop` -/
abbrev InetNtop := Family → List UInt8 → Text

/-- `_hex_ipv4` -/
def hexIpv4 (inetNtop : InetNtop) (h : Text) : Except Failure Text := do
  let number ← int 16 h
  let packed ← pack number
  .ok (inetNtop .inet packed)

/-- `_hex_ipv6` -/
def hexIpv6 (inetNtop : InetNtop) (h : Text) : Except Failure Text := do
  let packed ← [0, 8, 16, 24].mapM fun i => do
    let number ← int 16 ((h.drop i).take 8)
    pack number
  .ok (inetNtop .inet6 packed.flatten)

/-- One round of the loop: the row that the line contributes. -/
def parseLine (inetNtop : InetNtop) (family : Family) (line : Text) :
    Except Failure (Option Row) :=
  let parts := split line
  if parts.length < 10 ∨ parts[3]? ≠ some "0A".toList then .ok none
  else
    match rsplit ':' (parts.getD 1 []) with
    | [addrHex, portHex] => do
        let addr ← (if family = .inet then hexIpv4 inetNtop addrHex
          else hexIpv6 inetNtop addrHex)
        let port ← int 16 portHex
        let inode ← int 10 (parts.getD 9 [])
        .ok (some ⟨family, addr, port, inode⟩)
    | _ => .error .value

def parseLines (inetNtop : InetNtop) (family : Family) :
    List Text → Except Failure (List Row)
  | [] => .ok []
  | line :: later => do
      let row ← parseLine inetNtop family line
      let rows ← parseLines inetNtop family later
      .ok (row.toList ++ rows)

/-- `_parse_proc_tcp` -/
def parseProcTcp (inetNtop : InetNtop) (text : Text) (family : Family) :
    Except Failure (List Row) :=
  parseLines inetNtop family ((splitlines text).drop 1)

/-! Numbers. -/

/-- Digits of the base, and nothing else. -/
def Digits (base : Nat) (text : Text) : Prop :=
  ∀ char ∈ text, ∃ value, value < base ∧ char = Numeral.digit value

theorem Digits.padded {base : Nat} (positive : 0 < base)
    (width number : Nat) : Digits base (Numeral.padded base width number) :=
  fun _ member => Numeral.mem_padded positive member

theorem toNat_hexDigit {value : Nat} (small : value < 16) :
    48 ≤ (Numeral.digit value).toNat ∧ (Numeral.digit value).toNat ≤ 70 ∧
      (Numeral.digit value).toNat ≠ 58 := by
  rw [Numeral.toNat_digit (small.trans (by decide))]
  split
  · omega
  · omega

theorem Digits.toNat {base : Nat} {text : Text} (digits : Digits base text)
    (small : base ≤ 16) {char : Char} (member : char ∈ text) :
    48 ≤ char.toNat ∧ char.toNat ≤ 70 ∧ char.toNat ≠ 58 := by
  obtain ⟨value, less, rfl⟩ := digits char member
  exact toNat_hexDigit (less.trans_le small)

/-- Plain digits carry no blank, sign or base to take off. -/
theorem int_digits {base : Nat} {text : Text} (digits : Digits base text)
    (small : base ≤ 16) {number : Nat}
    (read : Numeral.readDigits base 0 true text = some number) :
    int base text = .ok number := by
  have noBlank : strip text = text := by
    rw [strip, dropWhile_eq_self, rdropWhile_eq_self]
    · intro char last
      have bounds := digits.toNat small (List.mem_of_getLast? last)
      rw [isSpace, decide_eq_false_iff_not]
      omega
    · intro char head
      have bounds := digits.toNat small (List.mem_of_mem_head? head)
      rw [isSpace, decide_eq_false_iff_not]
      omega
  have noSign : stripSign text = (false, text) := by
    cases text with
    | nil => rfl
    | cons char later =>
        have bounds := digits.toNat small List.mem_cons_self
        rw [stripSign]
        · intro rest same
          rw [(List.cons.inj same).1] at bounds
          exact absurd bounds.1 (by decide)
        · intro rest same
          rw [(List.cons.inj same).1] at bounds
          exact absurd bounds.1 (by decide)
  have noBase : stripBase base text = text := by
    rw [stripBase, if_neg]
    intro hex
    rcases hex.2 with lower | upper
    · have bounds := digits.toNat small
        (lower.subset (List.mem_cons_of_mem _ (List.mem_singleton_self 'x')))
      simp at bounds
    · have bounds := digits.toNat small
        (upper.subset (List.mem_cons_of_mem _ (List.mem_singleton_self 'X')))
      simp at bounds
  rw [int, noBlank, noSign]
  dsimp only
  rw [noBase, read]
  rfl

theorem int_padded {base width number : Nat} (small : base ≤ 16)
    (bound : number < base ^ (width + 1)) :
    int base (Numeral.padded base (width + 1) number) = .ok number := by
  have positive : 0 < base := by
    apply Nat.pos_of_ne_zero
    intro zero
    rw [zero, Nat.zero_pow (Nat.succ_pos _)] at bound
    omega
  exact int_digits (.padded positive _ _) small
    (Numeral.readDigits_padded_succ (small.trans (by decide)) bound true)

theorem int_written (number : Nat) :
    int 10 (Numeral.written 10 number) = .ok number :=
  int_digits (.padded (by decide) _ _) (by decide)
    (Numeral.readDigits_written (by decide) (by decide) number true)

/-! The layout of the kernel. -/

def Family.width : Family → Nat
  | .inet => 4
  | .inet6 => 16

structure TcpSocket (family : Family) where
  address : List UInt8
  address_length : address.length = family.width
  port : Nat
  port_lt : port < 65536
  state : UInt8
  inode : Nat

/-- `TCP_LISTEN` -/
def TcpSocket.listens {family : Family} (socket : TcpSocket family) : Bool :=
  socket.state == 10

/-- The words of an address as the host prints them, `%08X` each. -/
def hexWords : List UInt8 → Text
  | first :: second :: third :: fourth :: later =>
      Numeral.padded 16 8 (Numeral.ofBytes [first, second, third, fourth]) ++
        hexWords later
  | _ => []

/-- The fields of a row that are not looked at. -/
structure OtherFields where
  sl : Text
  remAddress : Text
  queues : Text
  timer : Text
  retransmits : Text
  uid : Text
  timeout : Text
  more : List Text

/-- The fields of a row in their order. -/
def TcpSocket.fields {family : Family} (socket : TcpSocket family)
    (others : OtherFields) : List Text :=
  [others.sl,
    hexWords socket.address ++ ':' :: Numeral.padded 16 4 socket.port,
    others.remAddress, Numeral.padded 16 2 socket.state.toNat,
    others.queues, others.timer, others.retransmits, others.uid,
    others.timeout, Numeral.written 10 socket.inode] ++ others.more

/-- A line below the header. -/
inductive TableLine (family : Family)
  | socket (entry : TcpSocket family) (others : OtherFields) (text : Text)
      (oneLine : OneLine text) (spaced : Spaced text (entry.fields others))
  | short (text : Text) (oneLine : OneLine text)
      (few : (split text).length < 10)

namespace TableLine

variable {family : Family}

def text : TableLine family → Text
  | .socket _ _ text _ _ => text
  | .short text _ _ => text

def socket? : TableLine family → Option (TcpSocket family)
  | .socket entry _ _ _ _ => some entry
  | .short _ _ _ => none

theorem oneLine_text (line : TableLine family) : OneLine line.text := by
  cases line with
  | socket entry others text oneLine spaced => exact oneLine
  | short text oneLine few => exact oneLine

end TableLine

/-- The header and the lines below it. -/
structure SocketTable (family : Family) where
  header : Text
  header_line : OneLine header
  lines : List (TableLine family)

namespace SocketTable

variable {family : Family}

def text (table : SocketTable family) : Text :=
  (table.header :: table.lines.map TableLine.text).flatMap (· ++ ['\n'])

def sockets (table : SocketTable family) : List (TcpSocket family) :=
  table.lines.filterMap TableLine.socket?

def listening (table : SocketTable family) : List (TcpSocket family) :=
  table.sockets.filter TcpSocket.listens

end SocketTable

/-- How a listening socket is reported. -/
def TcpSocket.row (inetNtop : InetNtop) {family : Family}
    (socket : TcpSocket family) : Row :=
  ⟨family, inetNtop family socket.address, socket.port, socket.inode⟩

/-! The words of an address. -/

theorem ok_bind {α β : Type} (value : α) (next : α → Except Failure β) :
    (Except.ok value >>= next) = next value := rfl

theorem pack_word {word : List UInt8} (length : word.length = 4) :
    (int 16 (Numeral.padded 16 8 (Numeral.ofBytes word)) >>= pack) =
      .ok word := by
  have bound : Numeral.ofBytes word < 2 ^ 32 := by
    have less := Numeral.ofBytes_lt word
    rwa [length] at less
  have bytes := Numeral.bytes_ofBytes word
  rw [length] at bytes
  rw [int_padded (by decide) (by simpa using bound), ok_bind, pack,
    if_pos (by omega), Int.toNat_natCast, bytes]

theorem hexWords_word (address : List UInt8) {index : Nat}
    (inside : 4 * index + 4 ≤ address.length) :
    ((hexWords address).drop (8 * index)).take 8 =
      Numeral.padded 16 8
        (Numeral.ofBytes ((address.drop (4 * index)).take 4)) := by
  induction index generalizing address with
  | zero =>
      rcases address with _ | ⟨first, _ | ⟨second, _ | ⟨third, _ |
        ⟨fourth, later⟩⟩⟩⟩
      all_goals simp only [List.length_nil, List.length_cons] at inside
      case cons.cons.cons.cons =>
        rw [hexWords]
        exact List.take_left' (Numeral.length_padded 16 8 _)
      all_goals omega
  | succ index ih =>
      rcases address with _ | ⟨first, _ | ⟨second, _ | ⟨third, _ |
        ⟨fourth, later⟩⟩⟩⟩
      all_goals simp only [List.length_nil, List.length_cons] at inside
      case cons.cons.cons.cons =>
        -- Four bytes less of the address are eight digits less of its text.
        have rest := ih later (by omega)
        have cut : ∀ front : Text, front.length = 8 →
            (front ++ hexWords later).drop (8 * (index + 1)) =
              (hexWords later).drop (8 * index) := by
          intro front length
          rw [Nat.mul_succ, Nat.add_comm, ← List.drop_drop,
            List.drop_left' length]
        rw [hexWords, cut _ (Numeral.length_padded 16 8 _), rest]
        rfl
      all_goals omega

theorem pack_hexWords {address : List UInt8} {index : Nat}
    (inside : 4 * index + 4 ≤ address.length) :
    (int 16 (((hexWords address).drop (8 * index)).take 8) >>= pack) =
      .ok ((address.drop (4 * index)).take 4) := by
  have length : ((address.drop (4 * index)).take 4).length = 4 := by
    rw [List.length_take, List.length_drop]
    omega
  rw [hexWords_word address inside, pack_word length]

theorem length_hexWords_four {address : List UInt8}
    (length : address.length = 4) : (hexWords address).length = 8 := by
  rcases address with _ | ⟨first, _ | ⟨second, _ | ⟨third, _ |
    ⟨fourth, _ | ⟨fifth, later⟩⟩⟩⟩⟩
  all_goals simp only [List.length_nil, List.length_cons] at length
  case cons.cons.cons.cons.nil =>
    rw [hexWords, List.length_append, Numeral.length_padded]
    rfl
  all_goals omega

theorem hexIpv4_hexWords (inetNtop : InetNtop) {address : List UInt8}
    (length : address.length = 4) :
    hexIpv4 inetNtop (hexWords address) = .ok (inetNtop .inet address) := by
  have packed := @pack_hexWords address 0 (by omega)
  simp only [Nat.mul_zero, List.drop_zero] at packed
  rw [List.take_of_length_le (length_hexWords_four length).le,
    List.take_of_length_le length.le] at packed
  change (int 16 (hexWords address) >>= fun number => pack number >>= _) = _
  rw [← bind_assoc, packed]
  rfl

theorem take_append_drop_four (address : List UInt8) (index : Nat) :
    (address.drop index).take 4 ++ address.drop (index + 4) =
      address.drop index := by
  rw [← List.drop_drop]
  exact List.take_append_drop 4 _

/-- The words of the loop over `range(0, 32, 8)`. -/
theorem mapM_pack_hexWords {address : List UInt8} (indices : List Nat)
    (inside : ∀ index ∈ indices, 4 * index + 4 ≤ address.length) :
    ((indices.map (8 * ·)).mapM fun i =>
        int 16 (((hexWords address).drop i).take 8) >>= pack) =
      .ok (indices.map fun index => (address.drop (4 * index)).take 4) := by
  induction indices with
  | nil => rfl
  | cons index indices ih =>
      obtain ⟨first, later⟩ := List.forall_mem_cons.mp inside
      rw [List.map_cons, List.mapM_cons, pack_hexWords first, ok_bind,
        ih later, ok_bind]
      rfl

theorem hexIpv6_hexWords (inetNtop : InetNtop) {address : List UInt8}
    (length : address.length = 16) :
    hexIpv6 inetNtop (hexWords address) = .ok (inetNtop .inet6 address) := by
  have inside : ∀ index ∈ [0, 1, 2, 3], 4 * index + 4 ≤ address.length := by
    intro index member
    simp only [List.mem_cons, List.not_mem_nil, or_false] at member
    omega
  have whole : [(address.drop 0).take 4, (address.drop 4).take 4,
      (address.drop 8).take 4, (address.drop 12).take 4].flatten =
        address := by
    have none : address.drop 16 = [] := List.drop_of_length_le length.le
    simp only [List.flatten_cons, List.flatten_nil]
    rw [← none, take_append_drop_four address 12,
      take_append_drop_four address 8, take_append_drop_four address 4,
      take_append_drop_four address 0, List.drop_zero]
  have mapped := mapM_pack_hexWords [0, 1, 2, 3] inside
  change ([0, 8, 16, 24].mapM fun i =>
    int 16 (((hexWords address).drop i).take 8) >>= pack) = .ok
      [(address.drop 0).take 4, (address.drop 4).take 4,
        (address.drop 8).take 4, (address.drop 12).take 4] at mapped
  rw [hexIpv6]
  change (([0, 8, 16, 24].mapM fun i =>
    int 16 (((hexWords address).drop i).take 8) >>= pack) >>= _) = _
  rw [mapped, ok_bind, whole]

/-! A row, and the table. -/

theorem parseLine_short (inetNtop : InetNtop) (family : Family) {line : Text}
    (few : (split line).length < 10) :
    parseLine inetNtop family line = .ok none :=
  if_pos (.inl few)

theorem state_field (state : UInt8) :
    Numeral.padded 16 2 state.toNat = "0A".toList ↔ state = 10 := by
  have bound : state.toNat < 16 ^ (1 + 1) := state.toNat_lt
  constructor
  · intro same
    have number : state.toNat = 10 :=
      Numeral.padded_inj (by decide) bound (by decide) same
    exact UInt8.toNat_inj.mp number
  · intro same
    rw [same]
    rfl

theorem port_field {family : Family} (socket : TcpSocket family) :
    rsplit ':' (hexWords socket.address ++
      ':' :: Numeral.padded 16 4 socket.port) =
        [hexWords socket.address, Numeral.padded 16 4 socket.port] := by
  apply rsplit_found
  intro member
  have bounds := (Digits.padded (by decide) 4 socket.port).toNat
    (show 16 ≤ 16 from le_rfl) member
  exact bounds.2.2 rfl

theorem parseLine_socket (inetNtop : InetNtop) {family : Family}
    (socket : TcpSocket family) {others : OtherFields} {line : Text}
    (spaced : Spaced line (socket.fields others)) :
    parseLine inetNtop family line =
      .ok (if socket.listens then some (socket.row inetNtop) else none) := by
  have enough : ¬ (socket.fields others).length < 10 := by
    rw [TcpSocket.fields, List.length_append]
    simp
  rw [parseLine, spaced.split]
  cases listens : socket.listens with
  | false =>
      have other : ¬ socket.state = 10 := by
        simpa [TcpSocket.listens] using listens
      apply if_pos
      right
      intro same
      exact other ((state_field socket.state).mp (Option.some.inj same))
  | true =>
      have isListen : socket.state = 10 := by
        simpa [TcpSocket.listens] using listens
      have state : (socket.fields others)[3]? = some "0A".toList :=
        congrArg some ((state_field socket.state).mpr isListen)
      have port : int 16 (Numeral.padded 16 4 socket.port) =
          .ok socket.port :=
        int_padded (by decide) socket.port_lt
      have inode : int 10 (Numeral.written 10 socket.inode) =
          .ok socket.inode := int_written socket.inode
      have addr : (if family = .inet then
            hexIpv4 inetNtop (hexWords socket.address)
          else hexIpv6 inetNtop (hexWords socket.address)) =
          .ok (inetNtop family socket.address) := by
        cases family with
        | inet => exact hexIpv4_hexWords inetNtop socket.address_length
        | inet6 => exact hexIpv6_hexWords inetNtop socket.address_length
      have local_ : (socket.fields others).getD 1 [] =
          hexWords socket.address ++
            ':' :: Numeral.padded 16 4 socket.port := rfl
      have ninth : (socket.fields others).getD 9 [] =
          Numeral.written 10 socket.inode := rfl
      rw [if_neg (by simp [enough, state]), local_, port_field, ninth]
      dsimp only
      rw [addr, ok_bind, port, ok_bind, inode, ok_bind]
      rfl

theorem parseLines_table (inetNtop : InetNtop) {family : Family}
    (lines : List (TableLine family)) :
    parseLines inetNtop family (lines.map TableLine.text) =
      .ok (((lines.filterMap TableLine.socket?).filter
        TcpSocket.listens).map (TcpSocket.row inetNtop)) := by
  induction lines with
  | nil => rfl
  | cons line lines ih =>
      rw [List.map_cons, parseLines]
      cases line with
      | short text oneLine few =>
          rw [TableLine.text, parseLine_short inetNtop family few, ok_bind,
            ih, ok_bind]
          rfl
      | socket entry others text oneLine spaced =>
          rw [TableLine.text, parseLine_socket inetNtop entry spaced,
            ok_bind, ih, ok_bind,
            List.filterMap_cons_some (show TableLine.socket?
              (.socket entry others text oneLine spaced) = some entry from rfl)]
          cases listens : entry.listens with
          | false => rw [List.filter_cons_of_neg (by simp [listens])]; rfl
          | true => rw [List.filter_cons_of_pos listens]; rfl

theorem splitlines_table {family : Family} (table : SocketTable family) :
    splitlines table.text =
      table.header :: table.lines.map TableLine.text := by
  have each : ∀ line ∈ (table.header :: table.lines.map TableLine.text).map
      fun line => (line, ['\n']), OneLine line.1 ∧ Break line.2 := by
    intro line member
    obtain ⟨text, inTable, rfl⟩ := List.mem_map.mp member
    refine ⟨?_, .inr ⟨'\n', rfl, rfl, by decide⟩⟩
    rcases List.mem_cons.mp inTable with rfl | inLines
    · exact table.header_line
    · obtain ⟨source, _, rfl⟩ := List.mem_map.mp inLines
      exact source.oneLine_text
  have written := splitlines_written each
    (fun _ member => absurd member List.not_mem_nil)
  rw [List.flatMap_map, List.map_map, List.append_nil, if_pos rfl,
    List.append_nil] at written
  rw [SocketTable.text, written]
  exact List.map_id _

theorem row_inj {inetNtop : InetNtop} {family : Family}
    (injective : ∀ first second, first.length = family.width →
      second.length = family.width →
      inetNtop family first = inetNtop family second → first = second)
    {first second : TcpSocket family}
    (same : first.row inetNtop = second.row inetNtop) :
    (first.address, first.port, first.inode) =
      (second.address, second.port, second.inode) := by
  rw [TcpSocket.row, TcpSocket.row, Row.mk.injEq] at same
  obtain ⟨_, addr, port, inode⟩ := same
  rw [injective _ _ first.address_length second.address_length addr,
    Int.ofNat.inj port, Int.ofNat.inj inode]

theorem map_eq_of_rows {inetNtop : InetNtop} {family : Family}
    (injective : ∀ first second, first.length = family.width →
      second.length = family.width →
      inetNtop family first = inetNtop family second → first = second)
    {first second : List (TcpSocket family)}
    (rows : first.map (TcpSocket.row inetNtop) =
      second.map (TcpSocket.row inetNtop)) :
    first.map (fun socket => (socket.address, socket.port, socket.inode)) =
      second.map fun socket =>
        (socket.address, socket.port, socket.inode) := by
  induction first generalizing second with
  | nil =>
      cases second with
      | nil => rfl
      | cons socket second => cases rows
  | cons socket first ih =>
      cases second with
      | nil => cases rows
      | cons socket' second =>
          obtain ⟨row, rows⟩ := List.cons.inj rows
          rw [List.map_cons, List.map_cons, row_inj injective row, ih rows]

/-- The listening sockets of a table, and no others, are reported in their
order; where `inet_ntop` tells the addresses apart, so does the report. -/
theorem parseProcTcp_table (inetNtop : InetNtop) {family : Family}
    (table : SocketTable family) :
    parseProcTcp inetNtop table.text family =
        .ok (table.listening.map (TcpSocket.row inetNtop)) ∧
      ((∀ first second : List UInt8, first.length = family.width →
          second.length = family.width →
          inetNtop family first = inetNtop family second → first = second) →
        ∀ other : SocketTable family,
          parseProcTcp inetNtop other.text family =
            parseProcTcp inetNtop table.text family →
          other.listening.map
              (fun socket => (socket.address, socket.port, socket.inode)) =
            table.listening.map
              fun socket => (socket.address, socket.port, socket.inode)) := by
  have reported : ∀ table : SocketTable family,
      parseProcTcp inetNtop table.text family =
        .ok (table.listening.map (TcpSocket.row inetNtop)) := by
    intro table
    rw [parseProcTcp, splitlines_table]
    exact parseLines_table inetNtop table.lines
  refine ⟨reported table, ?_⟩
  intro injective other same
  rw [reported, reported] at same
  exact map_eq_of_rows injective (Except.ok.inj same)

/-- `inet_ntop(AF_INET, packed)` -/
def dottedQuad (packed : List UInt8) : Text :=
  ['.'].intercalate (packed.map fun byte => Numeral.written 10 byte.toNat)

theorem dottedQuad_inj {first second : List UInt8} (nonempty : first ≠ [])
    (nonempty' : second ≠ []) (same : dottedQuad first = dottedQuad second) :
    first = second := by
  have noDot : ∀ packed : List UInt8,
      ∀ text ∈ packed.map fun byte => Numeral.written 10 byte.toNat,
        '.' ∉ text := by
    intro packed text member dot
    obtain ⟨byte, _, rfl⟩ := List.mem_map.mp member
    have bounds := (Digits.padded (by decide) _ byte.toNat).toNat
      (show 10 ≤ 16 by decide) dot
    exact absurd bounds.1 (by decide)
  have parts := congrArg (List.splitOn '.') same
  rw [dottedQuad, dottedQuad, List.splitOn_intercalate '.' (noDot first)
      (by simpa using nonempty),
    List.splitOn_intercalate '.' (noDot second) (by simpa using nonempty')]
    at parts
  apply List.map_injective_iff.mpr _ parts
  intro byte byte' written
  have same : Numeral.written 10 byte.toNat =
    Numeral.written 10 byte'.toNat := written
  have read : Numeral.readDigits 10 0 true (Numeral.written 10 byte.toNat) =
      some byte.toNat :=
    Numeral.readDigits_written (by decide) (by decide) byte.toNat true
  rw [same, Numeral.readDigits_written (by decide) (by decide)] at read
  exact (UInt8.toNat_inj.mp (Option.some.inj read)).symm

/-- A LISTEN row, an ESTABLISHED one and a short one. -/
theorem parseProcTcp_table_loopback :
    ∃ table : SocketTable .inet,
      table.text = ("  sl  local_address\n" ++
        "   0: 0100007F:1F90 00000000:0000 0A 0:0 0:0 0  0  0 99\n" ++
        "   1: 0100007F:D431 0100007F:1F90 01 0:0 0:0 0  0  0 12\n" ++
        "   2: 0100007F\n").toList ∧
      parseProcTcp (fun _ => dottedQuad) table.text .inet =
        .ok [⟨.inet, "127.0.0.1".toList, 8080, 99⟩] ∧
      ∀ other : SocketTable .inet,
        parseProcTcp (fun _ => dottedQuad) other.text .inet =
          parseProcTcp (fun _ => dottedQuad) table.text .inet →
        other.listening.map
            (fun socket => (socket.address, socket.port, socket.inode)) =
          [([127, 0, 0, 1], 8080, 99)] := by
  let header := "  sl  local_address".toList
  let first :=
    "   0: 0100007F:1F90 00000000:0000 0A 0:0 0:0 0  0  0 99".toList
  let second :=
    "   1: 0100007F:D431 0100007F:1F90 01 0:0 0:0 0  0  0 12".toList
  let third := "   2: 0100007F".toList
  let others := fun (sl remAddress : String) =>
    (⟨sl.toList, remAddress.toList, "0:0".toList, "0:0".toList, "0".toList,
      "0".toList, "0".toList, []⟩ : OtherFields)
  let listening : TcpSocket .inet :=
    ⟨[127, 0, 0, 1], rfl, 8080, by decide, 10, 99⟩
  let established : TcpSocket .inet :=
    ⟨[127, 0, 0, 1], rfl, 54321, by decide, 1, 12⟩
  let table : SocketTable .inet :=
    ⟨header, by decide,
      [.socket listening (others "0:" "00000000:0000") first (by decide)
          (spaced_of_split (by decide)),
        .socket established (others "1:" "0100007F:1F90") second (by decide)
          (spaced_of_split (by decide)),
        .short third (by decide) (by decide)]⟩
  have listed : table.listening = [listening] := rfl
  have injective : ∀ first second : List UInt8,
      first.length = Family.inet.width → second.length = Family.inet.width →
        dottedQuad first = dottedQuad second → first = second := by
    intro first second length length' same
    apply dottedQuad_inj _ _ same
    · exact List.ne_nil_of_length_pos (by rw [length]; decide)
    · exact List.ne_nil_of_length_pos (by rw [length']; decide)
  have parsed := parseProcTcp_table (fun _ => dottedQuad) table
  refine ⟨table, by decide +kernel, ?_, ?_⟩
  · rw [parsed.1, listed]
    rfl
  · intro other same
    rw [parsed.2 injective other same, listed]
    rfl

end Catwalk.Net
