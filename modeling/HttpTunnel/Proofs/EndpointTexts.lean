import HttpTunnel.Proofs.IpTexts
import Mathlib.Data.List.DropRight

/-!
What an endpoint is read as once it has been written. An endpoint that a text is read as can be
written and read again, and stays the same place, unless the host was brackets and nothing else:
the empty host is looked for before the brackets are taken away.
-/

namespace HttpTunnel.Address

theorem Ip.text_some (ip : Ip) : ip.text ≠ [] := by
  cases ip with
  | v4 address => exact address.text_some
  | v6 address => exact address.text_some

namespace SocketAddress

theorem read_port_text (port : UInt16) :
    readPort (':' :: decimalText port.toNat) = some (port, []) := by
  have bound := port.toNat_lt
  have read := read_bounded_text [] 65535 port.toNat (by omega) stops_nil
  rw [List.append_nil] at read
  simp [readPort, read]

theorem read_v4_other (char : Char) (text : List Char) (noDigit : decimalValue? char = none) :
    readV4 (char :: text) = none := by
  simp [readV4, V4.read_stops _ (stops_cons char text noDigit)]

theorem parse_text (ip : Ip) (port : UInt16) :
    parse? (text ⟨ip, port, 0⟩) = some ⟨ip, port, 0⟩ := by
  cases ip with
  | v4 address =>
      have read := V4.read_text address (':' :: decimalText port.toNat) (stops_cons ':' _ rfl)
      have whole : readV4 (address.text ++ ':' :: decimalText port.toNat) =
          some (⟨.v4 address, port, 0⟩, []) := by
        simp [readV4, read, read_port_text]
      simp only [text, parse?, whole]
  | v6 address =>
      have written : text ⟨.v6 address, port, 0⟩ =
          '[' :: (address.text ++ ']' :: ':' :: decimalText port.toNat) := by
        simp [text]
      have read := V6.read_text address (V6.ends_bracket (':' :: decimalText port.toNat))
      have unscoped : readScope (']' :: ':' :: decimalText port.toNat) =
          (0, ']' :: ':' :: decimalText port.toNat) := rfl
      have whole : readV6 ('[' :: (address.text ++ ']' :: ':' :: decimalText port.toNat)) =
          some (⟨.v6 address, port, 0⟩, []) := by
        simp [readV6, read, unscoped, read_port_text]
      rw [written, parse?, read_v4_other '[' _ rfl]
      simp only [whole]

end SocketAddress

namespace Endpoint

section Split

theorem split_none_iff (text : List Char) : splitLastColon? text = none ↔ ':' ∉ text := by
  induction text with
  | nil => simp [splitLastColon?]
  | cons char text induction =>
      cases rest : splitLastColon? text with
      | some split =>
          have among : ':' ∈ text := by
            by_contra colonless
            cases rest.symm.trans (induction.mpr colonless)
          simp [splitLastColon?, rest, among]
      | none =>
          have colonless := induction.mp rest
          simp only [splitLastColon?, rest, List.mem_cons, colonless, or_false]
          split_ifs with colon
          · simp [colon]
          · simpa using Ne.symm colon

theorem split_last_colon (front back : List Char) (colonless : ':' ∉ back) :
    splitLastColon? (front ++ ':' :: back) = some (front, back) := by
  induction front with
  | nil => simp [splitLastColon?, (split_none_iff back).mpr colonless]
  | cons char front induction =>
      rw [List.cons_append, splitLastColon?, induction]

theorem split_last_colon_came (text front back : List Char)
    (came : splitLastColon? text = some (front, back)) :
    text = front ++ ':' :: back ∧ ':' ∉ back := by
  induction text generalizing front with
  | nil => cases came
  | cons char text induction =>
      cases rest : splitLastColon? text with
      | some split =>
          rw [splitLastColon?, rest] at came
          cases came
          obtain ⟨whole, colonless⟩ := induction split.1 rest
          exact ⟨congrArg (char :: ·) whole, colonless⟩
      | none =>
          simp only [splitLastColon?, rest] at came
          split_ifs at came with colon
          cases came
          exact ⟨by rw [colon]; rfl, (split_none_iff _).mp rest⟩

end Split

section Brackets

theorem bare_host_trims (host : List Char) :
    bareHost host = (host.dropWhile (· = '[')).rdropWhile (· = ']') := rfl

theorem bare_host_leading (host : List Char) : (bareHost host).head? ≠ some '[' := by
  intro leads
  obtain ⟨rest, whole⟩ := List.head?_eq_some_iff.mp leads
  have front : bareHost host <+: host.dropWhile (· = '[') := List.rdropWhile_prefix _ _
  rw [whole] at front
  obtain ⟨behind, same⟩ := front
  have opened := List.head?_dropWhile_not (· = '[') host
  rw [← same] at opened
  simp at opened

theorem bare_host_self (host : List Char) : bareHost (bareHost host) = bareHost host := by
  have leading := bare_host_leading host
  have closed := List.rdropWhile_idempotent (· = ']') (host.dropWhile (· = '['))
  rw [← bare_host_trims] at closed
  generalize bareHost host = bare at leading closed ⊢
  rw [bare_host_trims]
  cases bare with
  | nil => rfl
  | cons char rest =>
      have kept : (char :: rest).dropWhile (· = '[') = char :: rest := by
        rw [List.dropWhile_cons, if_neg]
        simpa using leading
      rw [kept, closed]

/-- Nothing is left of a host just if it is brackets that open and then brackets that close. -/
theorem bare_host_none (host : List Char) : bareHost host = [] ↔
    ∃ opening closing, host = List.replicate opening '[' ++ List.replicate closing ']' := by
  rw [bare_host_trims, List.rdropWhile_eq_nil_iff]
  constructor
  · intro closes
    refine ⟨(host.takeWhile (· = '[')).length, (host.dropWhile (· = '[')).length, ?_⟩
    have opens : host.takeWhile (· = '[') =
        List.replicate (host.takeWhile (· = '[')).length '[' := by
      apply List.eq_replicate_of_mem
      intro char member
      simpa using List.mem_takeWhile_imp member
    have closed : host.dropWhile (· = '[') =
        List.replicate (host.dropWhile (· = '[')).length ']' := by
      apply List.eq_replicate_of_mem
      intro char member
      simpa using closes char member
    rw [← opens, ← closed, List.takeWhile_append_dropWhile]
  · rintro ⟨opening, closing, rfl⟩ char member
    have opened : (List.replicate opening '[').dropWhile (· = '[') = [] :=
      List.dropWhile_eq_nil_iff.mpr (by simp)
    rw [List.dropWhile_append, opened] at member
    have among := (List.dropWhile_sublist _).subset member
    simpa using (List.mem_replicate.mp among).2

end Brackets

section Parsing

/-- What has no bracket in front and is no version 4 address and a port is no socket address. -/
theorem no_socket_address (host port : List Char) (unbracketed : host.head? ≠ some '[')
    (colonless : ':' ∉ port) (unknown : Ip.parse? host = none) :
    SocketAddress.parse? (host ++ ':' :: port) = none := by
  have opened : (host ++ ':' :: port).head? ≠ some '[' := by
    cases host with
    | nil => simp
    | cons char host => simpa using unbracketed
  have noV6 : SocketAddress.readV6 (host ++ ':' :: port) = none := by
    simp [SocketAddress.readV6, expect_other opened]
  cases read : SocketAddress.readV4 (host ++ ':' :: port) with
  | none => simp [SocketAddress.parse?, read, noV6]
  | some result =>
      rcases result with ⟨address, _ | ⟨char, rest⟩⟩
      · simp only [SocketAddress.readV4, SocketAddress.readPort, Option.bind_eq_bind,
          Option.bind_eq_some_iff] at read
        obtain ⟨⟨inner, _⟩, front, ⟨number, _⟩, ⟨_, colon, ⟨value, _⟩, digits, same⟩, last⟩ := read
        cases same
        cases last
        obtain rfl := expect_came colon
        obtain ⟨used, whole, _, again⟩ := V4.read_local _ _ inner front
        obtain ⟨places, rfl, decimals⟩ := read_bounded_digits _ _ _ _ digits
        rw [List.append_nil] at whole
        have noColon : ':' ∉ places := fun member => by cases decimals ':' member
        -- The last colon is the one that the reader found behind the version 4 address.
        have split := split_last_colon host port colonless
        rw [whole, split_last_colon used places noColon] at split
        cases split
        have read := again [] stops_nil
        rw [List.append_nil] at read
        simp [Ip.parse?, read] at unknown
      · simp [SocketAddress.parse?, read]

/-- An endpoint is read in one of two ways. -/
theorem parse_cases (text : List Char) (endpoint : Endpoint) (parsed : parse text = .ok endpoint) :
    (∃ address, SocketAddress.parse? text = some address ∧ endpoint = ofSocket address) ∨
    (SocketAddress.parse? text = none ∧ ∃ host port number, text = host ++ ':' :: port ∧
      ':' ∉ port ∧ host ≠ [] ∧ endpoint = ofHost (bareHost host) number) := by
  unfold parse at parsed
  cases known : SocketAddress.parse? text with
  | some address =>
      simp only [known] at parsed
      cases parsed
      exact .inl ⟨address, rfl, rfl⟩
  | none =>
      cases split : splitLastColon? text with
      | none =>
          simp only [known, split] at parsed
          cases parsed
      | some parts =>
          rcases parts with ⟨host, port⟩
          obtain ⟨whole, colonless⟩ := split_last_colon_came text host port split
          simp only [known, split] at parsed
          split_ifs at parsed with empty
          cases read : parsePort port with
          | error cause =>
              simp only [read] at parsed
              cases parsed
          | ok number =>
              simp only [read] at parsed
              cases parsed
              exact .inr ⟨rfl, host, port, number, whole, colonless, empty, rfl⟩

theorem parse_known_text (endpoint : Endpoint) (ip : Ip) (known : endpoint.ip = some ip) :
    parse endpoint.text = .ok (ofSocket ⟨ip, endpoint.port, 0⟩) ∧
      (ofSocket ⟨ip, endpoint.port, 0⟩).text = endpoint.text := by
  have written : endpoint.text = SocketAddress.text ⟨ip, endpoint.port, 0⟩ := by
    simp [text, socket?, known]
  rw [written]
  refine ⟨?_, rfl⟩
  rw [parse, SocketAddress.parse_text]

theorem host_text (host : List Char) (port : UInt16) (unknown : Ip.parse? host = none) :
    (ofHost host port).text = host ++ ':' :: decimalText port.toNat := by
  simp [text, socket?, ofHost, unknown]

theorem colonless_number (number : Nat) : ':' ∉ decimalText number :=
  not_digit (decimal_text_reads number) ':' rfl

theorem parse_host_text (host : List Char) (port : UInt16) (some : bareHost host ≠ [])
    (unknown : Ip.parse? (bareHost host) = none) :
    parse (ofHost (bareHost host) port).text = .ok (ofHost (bareHost host) port) := by
  have socketless := no_socket_address _ _ (bare_host_leading host)
    (colonless_number port.toNat) unknown
  have split := split_last_colon (bareHost host) _ (colonless_number port.toNat)
  rw [host_text _ _ unknown, parse, socketless]
  simp only [split, if_neg some, parse_port_text, bare_host_self]

theorem parse_empty_text (port : UInt16) :
    parse (ofHost [] port).text = .error .emptyHost := by
  have socketless := no_socket_address [] _ nofun (colonless_number port.toNat) rfl
  have split := split_last_colon [] _ (colonless_number port.toNat)
  rw [host_text [] port rfl, parse, socketless]
  simp only [split, if_true]

theorem brackets_read_nothing (opening closing : Nat) (port : List Char) (colonless : ':' ∉ port) :
    V6.read (List.replicate opening '[' ++ List.replicate closing ']' ++ ':' :: port) = none := by
  apply V6.read_stuck
  · cases opening with
    | succ opening => exact stops_cons '[' _ rfl
    | zero =>
        cases closing with
        | succ closing => exact stops_cons ']' _ rfl
        | zero => exact stops_cons ':' _ rfl
  · intro further came
    have whole := expect_came came
    cases opening with
    | succ opening => cases whole
    | zero =>
        cases closing with
        | succ closing => cases whole
        | zero =>
            cases whole
            apply expect_other
            intro leads
            exact colonless (List.mem_of_mem_head? leads)

theorem no_bracket_address (opening closing : Nat) (port : List Char) (colonless : ':' ∉ port) :
    SocketAddress.parse?
      (List.replicate opening '[' ++ List.replicate closing ']' ++ ':' :: port) = none := by
  cases opening with
  | zero =>
      apply no_socket_address (List.replicate closing ']') port _ colonless
      · cases closing with
        | zero => rfl
        | succ closing =>
            have stops : Stops hexValue? (List.replicate (closing + 1) ']') := stops_cons ']' _ rfl
            have noV4 := V4.read_stops _ (V6.Stops.decimal stops)
            have noV6 := V6.read_stuck _ stops nofun
            simp [Ip.parse?, noV4, noV6]
      · cases closing <;> simp [List.replicate_succ]
  | succ opening =>
      have nothing := brackets_read_nothing opening closing port colonless
      have noV6 : SocketAddress.readV6 ('[' :: (List.replicate opening '[' ++
          List.replicate closing ']' ++ ':' :: port)) = none := by
        simp only [SocketAddress.readV6, expect_self, nothing, Option.bind_eq_bind,
          Option.bind_some, Option.bind_none]
      show SocketAddress.parse? ('[' :: (List.replicate opening '[' ++
        List.replicate closing ']' ++ ':' :: port)) = none
      rw [SocketAddress.parse?, SocketAddress.read_v4_other '[' _ rfl]
      simp only [noV6]

end Parsing

/-- The host of an endpoint is empty just if brackets alone stood before the last colon of the text
that it was read from. Then its own text is refused. Every other endpoint can be read again from
its text: that gives the same address, if it is known, the same port and the same text. -/
theorem endpoint_text_reads_back (text : List Char) (endpoint : Endpoint)
    (parsed : parse text = .ok endpoint) :
    (endpoint.host = [] ↔ ∃ opening closing port,
      text = List.replicate opening '[' ++ List.replicate closing ']' ++ ':' :: port ∧
        ':' ∉ port) ∧
    (endpoint.host = [] → parse endpoint.text = .error .emptyHost) ∧
    (endpoint.host ≠ [] → ∃ again, parse endpoint.text = .ok again ∧ again.host ≠ [] ∧
      again.ip = endpoint.ip ∧ again.port = endpoint.port ∧ again.text = endpoint.text) := by
  rcases parse_cases text endpoint parsed with
    ⟨address, known, rfl⟩ | ⟨_, host, port, number, rfl, colonless, _, rfl⟩
  · have named : (ofSocket address).host ≠ [] := address.ip.text_some
    refine ⟨⟨fun empty => absurd empty named, ?_⟩, fun empty => absurd empty named, ?_⟩
    · rintro ⟨opening, closing, port, rfl, colonless⟩
      rw [no_bracket_address opening closing port colonless] at known
      cases known
    · intro _
      obtain ⟨again, same⟩ := parse_known_text (ofSocket address) address.ip rfl
      exact ⟨_, again, address.ip.text_some, rfl, rfl, same⟩
  · refine ⟨?_, ?_, ?_⟩
    · show bareHost host = [] ↔ _
      rw [bare_host_none]
      constructor
      · rintro ⟨opening, closing, rfl⟩
        exact ⟨opening, closing, port, rfl, colonless⟩
      · rintro ⟨opening, closing, other, same, colonlessToo⟩
        have split := split_last_colon host port colonless
        rw [same, split_last_colon _ other colonlessToo] at split
        cases split
        exact ⟨opening, closing, rfl⟩
    · intro empty
      have bare : bareHost host = [] := empty
      rw [bare]
      exact parse_empty_text number
    · intro named
      cases address : Ip.parse? (bareHost host) with
      | some ip =>
          have known : (ofHost (bareHost host) number).ip = some ip := address
          obtain ⟨again, same⟩ := parse_known_text _ ip known
          exact ⟨_, again, ip.text_some, known.symm, rfl, same⟩
      | none =>
          exact ⟨_, parse_host_text host number named address, named, rfl, rfl, rfl⟩

def zonedAddress : SocketAddress := ⟨.v6 ⟨#v[0xfe80, 0, 0, 0, 0, 0, 0, 1]⟩, 80, 3⟩

theorem zoned_text_reads_back :
    parse "[fe80:0:0::1%3]:80".toList = .ok (ofSocket zonedAddress) ∧
      ∃ again, parse (ofSocket zonedAddress).text = .ok again ∧
        again.ip = some zonedAddress.ip ∧ again.text = "[fe80::1]:80".toList := by
  have parsed : parse "[fe80:0:0::1%3]:80".toList = .ok (ofSocket zonedAddress) := rfl
  have named : (ofSocket zonedAddress).host ≠ [] := zonedAddress.ip.text_some
  have written : (ofSocket zonedAddress).text = "[fe80::1]:80".toList := by decide +kernel
  obtain ⟨again, read, _, ip, _, same⟩ := (endpoint_text_reads_back _ _ parsed).2.2 named
  exact ⟨parsed, again, read, ip, same.trans written⟩

/-- Brackets with nothing inside are taken for a host, and the text of that endpoint is refused. -/
theorem empty_brackets_lose_host :
    parse "[]:80".toList = .ok ⟨[], none, 80⟩ ∧
      parse (⟨[], none, 80⟩ : Endpoint).text = .error .emptyHost :=
  ⟨rfl, parse_empty_text 80⟩

end Endpoint

end HttpTunnel.Address
