import EdgeHealthd.Library.Blocks
import EdgeHealthd.MiddlewareCore
import Mathlib.Data.List.TakeWhile

/-!
Which peers `LocalOnlyMiddleware` lets through. The eight tests of `isPrivateIP` make up
the documented blocks; the text of a peer reaches them only without a zone.
-/

namespace EdgeHealthd

open Blocks

/-- The IPv4 blocks that are to be let through, for both forms of an address. -/
def localV4Blocks : List Block := [
  ⟨[127, 0, 0, 0], 8⟩,
  ⟨[10, 0, 0, 0], 8⟩,
  ⟨[172, 16, 0, 0], 12⟩,
  ⟨[192, 168, 0, 0], 16⟩,
  ⟨[169, 254, 0, 0], 16⟩]

def localV6Blocks : List Block := [
  ⟨[0, 0, 0, 0, 0, 0, 0, 0, 0, 0, 0, 0, 0, 0, 0, 1], 128⟩,
  ⟨[0xfe, 0x80, 0, 0, 0, 0, 0, 0, 0, 0, 0, 0, 0, 0, 0, 0], 10⟩,
  ⟨[0xfc, 0, 0, 0, 0, 0, 0, 0, 0, 0, 0, 0, 0, 0, 0, 0], 7⟩]

def IsLocal (ip : IP) : Prop :=
  ∃ block ∈ localV4Blocks ++ localV6Blocks, block.Contains (ip.to4.getD ip)

instance (ip : IP) : Decidable (IsLocal ip) := inferInstanceAs (Decidable (∃ _ ∈ _, _))

section Ranges

theorem forall_byte {property : UInt8 → Prop}
    (every : ∀ value : Fin 256, property (UInt8.ofFin value)) (byte : UInt8) : property byte :=
  every byte.toFin

theorem top_two_bits (byte : UInt8) : byte &&& 0xc0 = 0x80 ↔ byte.toNat / 64 = 2 :=
  @forall_byte (fun byte => byte &&& 0xc0 = 0x80 ↔ byte.toNat / 64 = 2) (by decide +kernel) byte

theorem top_four_bits (byte : UInt8) : byte &&& 0xf0 = 16 ↔ byte.toNat / 16 = 1 :=
  @forall_byte (fun byte => byte &&& 0xf0 = 16 ↔ byte.toNat / 16 = 1) (by decide +kernel) byte

theorem top_seven_bits (byte : UInt8) : byte &&& 0xfe = 0xfc ↔ byte.toNat / 2 = 126 :=
  @forall_byte (fun byte => byte &&& 0xfe = 0xfc ↔ byte.toNat / 2 = 126) (by decide +kernel) byte

theorem number_two (first second : UInt8) :
    number [first, second] = first.toNat * 256 + second.toNat := by
  simp [number]

theorem contains_pair {x y : UInt8} {base : List UInt8} {bits : Nat} (free high : Nat)
    (short : bits + free = 16) (high_eq : (x.toNat * 256 + y.toNat) / 2 ^ free = high)
    (a b : UInt8) {rest : List UInt8} (length : rest.length = base.length) :
    (⟨x :: y :: base, bits⟩ : Block).Contains (a :: b :: rest) ↔
      (a.toNat * 256 + b.toNat) / 2 ^ free = high := by
  rw [Block.contains_iff _ _ 2 free (by simp) short, ← number_two, ← high_eq, ← number_two]
  simp [length]

theorem not_contains_of_length {blocks : List Block} {size : Nat} {address : List UInt8}
    (sized : ∀ block ∈ blocks, block.base.length = size) (length : address.length ≠ size) :
    ¬∃ block ∈ blocks, block.Contains address := by
  rintro ⟨block, member, same, _⟩
  exact length (same.trans (sized block member))

theorem local_v4_iff (a b c d : UInt8) :
    (∃ block ∈ localV4Blocks ++ localV6Blocks, block.Contains [a, b, c, d]) ↔
      a.toNat = 127 ∨ a.toNat = 10 ∨ (a.toNat = 172 ∧ b.toNat / 16 = 1) ∨
        (a.toNat = 192 ∧ b.toNat = 168) ∨ (a.toNat = 169 ∧ b.toNat = 254) := by
  have bound := b.toNat_lt
  have others : ¬∃ block ∈ localV6Blocks, block.Contains [a, b, c, d] :=
    not_contains_of_length (by decide : ∀ block ∈ localV6Blocks, block.base.length = 16) (by simp)
  simp only [List.mem_append, or_and_right, exists_or, others, or_false]
  simp only [localV4Blocks, List.mem_cons, List.not_mem_nil, or_false, exists_eq_or_imp,
    exists_eq_left]
  rw [@contains_pair 127 0 [0, 0] 8 8 127 rfl rfl a b [c, d] rfl,
    @contains_pair 10 0 [0, 0] 8 8 10 rfl rfl a b [c, d] rfl,
    @contains_pair 172 16 [0, 0] 12 4 2753 rfl rfl a b [c, d] rfl,
    @contains_pair 192 168 [0, 0] 16 0 49320 rfl rfl a b [c, d] rfl,
    @contains_pair 169 254 [0, 0] 16 0 43518 rfl rfl a b [c, d] rfl]
  refine or_congr ?_ (or_congr ?_ (or_congr ?_ (or_congr ?_ ?_)))
  · omega
  · omega
  · omega
  · omega
  · omega

theorem local_v6_iff (a b : UInt8) (rest : List UInt8) (length : rest.length = 14) :
    (∃ block ∈ localV4Blocks ++ localV6Blocks, block.Contains (a :: b :: rest)) ↔
      a :: b :: rest = ipv6Loopback ∨ (a.toNat = 254 ∧ b.toNat / 64 = 2) ∨
        a.toNat / 2 = 126 := by
  have bound := b.toNat_lt
  have others : ¬∃ block ∈ localV4Blocks, block.Contains (a :: b :: rest) :=
    not_contains_of_length (by decide : ∀ block ∈ localV4Blocks, block.base.length = 4)
      (by simp [length])
  have loopback : (⟨ipv6Loopback, 128⟩ : Block).Contains (a :: b :: rest) ↔
      a :: b :: rest = ipv6Loopback := by
    rw [Block.contains_iff _ _ 16 0 (by decide) rfl, Nat.pow_zero, Nat.div_one, Nat.div_one,
      List.take_of_length_le (by simp [length]), List.take_of_length_le (by decide)]
    constructor
    · rintro ⟨same, equal⟩
      exact number_inj same equal
    · intro equal
      rw [equal]
      exact ⟨rfl, rfl⟩
  simp only [List.mem_append, or_and_right, exists_or, others, false_or]
  simp only [localV6Blocks, List.mem_cons, List.not_mem_nil, or_false, exists_eq_or_imp,
    exists_eq_left]
  rw [← ipv6Loopback, loopback, contains_pair 6 1018 rfl rfl a b length,
    contains_pair 9 126 rfl rfl a b length]
  refine or_congr_right (or_congr ?_ ?_)
  · omega
  · omega

theorem byte_eq_iff (byte other : UInt8) : byte = other ↔ byte.toNat = other.toNat :=
  UInt8.toNat_inj.symm

theorem to4_cases {ip : IP} (length : ip.length = 16) :
    (∃ a b c d, ip.to4 = some [a, b, c, d]) ∨ ip.to4 = none := by
  unfold IP.to4
  rw [if_neg (by omega)]
  split
  · refine Or.inl ?_
    have four : (ip.drop 12).length = 4 := by
      rw [List.length_drop, length]
    match rest : ip.drop 12, four with
    | [a, b, c, d], _ => exact ⟨a, b, c, d, rfl⟩
  · exact Or.inr rfl

theorem isPrivateIP_v4 {ip : IP} {a b c d : UInt8} (mapped : ip.to4 = some [a, b, c, d])
    (unicast : ip.isMulticast = false) :
    isPrivateIP (some ip) = true ↔
      a.toNat = 127 ∨ a.toNat = 10 ∨ (a.toNat = 172 ∧ b.toNat / 16 = 1) ∨
        (a.toNat = 192 ∧ b.toNat = 168) ∨ (a.toNat = 169 ∧ b.toNat = 254) := by
  have notMulticast : a ≠ 224 := by
    rintro rfl
    have none : ¬(224 : UInt8) &&& 0xf0 = 0xe0 := by
      simpa [IP.isMulticast, mapped, IP.byte] using unicast
    exact none (by decide)
  have range : (16 ≤ b ∧ b ≤ 31) ↔ b &&& 0xf0 = 16 := by
    rw [UInt8.le_iff_toNat_le, UInt8.le_iff_toNat_le, top_four_bits]
    show 16 ≤ b.toNat ∧ b.toNat ≤ 31 ↔ _
    omega
  have tests : isPrivateIP (some ip) = true ↔
      a = 127 ∨ (a = 169 ∧ b = 254) ∨ a = 10 ∨ ((a = 172 ∧ 16 ≤ b) ∧ b ≤ 31) ∨
        (a = 192 ∧ b = 168) ∨ a = 127 ∨ (a = 10 ∨ a = 172 ∧ b &&& 0xf0 = 16) ∨
        (a = 192 ∧ b = 168) := by
    simp [isPrivateIP, IP.isLoopback, IP.isLinkLocalUnicast, IP.isLinkLocalMulticast,
      IP.isPrivate, mapped, IP.byte, notMulticast]
  rw [tests, and_assoc, range, top_four_bits]
  simp only [byte_eq_iff]
  show a.toNat = 127 ∨ (a.toNat = 169 ∧ b.toNat = 254) ∨ a.toNat = 10 ∨
    (a.toNat = 172 ∧ _) ∨ (a.toNat = 192 ∧ b.toNat = 168) ∨ a.toNat = 127 ∨
    (a.toNat = 10 ∨ a.toNat = 172 ∧ _) ∨ (a.toNat = 192 ∧ b.toNat = 168) ↔ _
  constructor
  · rintro (loopback | link | ten | twelve | sixteen | loopback | (ten | twelve) | sixteen)
    · exact Or.inl loopback
    · exact Or.inr (Or.inr (Or.inr (Or.inr link)))
    · exact Or.inr (Or.inl ten)
    · exact Or.inr (Or.inr (Or.inl twelve))
    · exact Or.inr (Or.inr (Or.inr (Or.inl sixteen)))
    · exact Or.inl loopback
    · exact Or.inr (Or.inl ten)
    · exact Or.inr (Or.inr (Or.inl twelve))
    · exact Or.inr (Or.inr (Or.inr (Or.inl sixteen)))
  · rintro (loopback | ten | twelve | sixteen | link)
    · exact Or.inl loopback
    · exact Or.inr (Or.inr (Or.inl ten))
    · exact Or.inr (Or.inr (Or.inr (Or.inl twelve)))
    · exact Or.inr (Or.inr (Or.inr (Or.inr (Or.inl sixteen))))
    · exact Or.inr (Or.inl link)

theorem isPrivateIP_v6 {a b : UInt8} {rest : List UInt8} (length : rest.length = 14)
    (whole : IP.to4 (a :: b :: rest) = none) (unicast : IP.isMulticast (a :: b :: rest) = false) :
    isPrivateIP (some (a :: b :: rest)) = true ↔
      a :: b :: rest = ipv6Loopback ∨ (a.toNat = 254 ∧ b.toNat / 64 = 2) ∨
        a.toNat / 2 = 126 := by
  have notMulticast : a ≠ 255 := by
    rintro rfl
    simp [IP.isMulticast, whole, IP.byte, length] at unicast
  have tests : isPrivateIP (some (a :: b :: rest)) = true ↔
      a :: b :: rest = ipv6Loopback ∨ (a = 254 ∧ b &&& 0xc0 = 0x80) ∨ a = 253 ∨
        (a = 254 ∧ b &&& 0xc0 = 0x80) ∨ a &&& 0xfe = 0xfc := by
    simp [isPrivateIP, IP.isLoopback, IP.isLinkLocalUnicast, IP.isLinkLocalMulticast,
      IP.isPrivate, IP.to16, whole, IP.byte, notMulticast, length]
  rw [tests, top_two_bits, top_seven_bits]
  refine or_congr_right ?_
  simp only [byte_eq_iff]
  show (a.toNat = 254 ∧ _) ∨ a.toNat = 253 ∨ (a.toNat = 254 ∧ _) ∨ _ ↔ _
  omega

theorem isPrivateIP_iff {ip : IP} (length : ip.length = 16) (unicast : ip.isMulticast = false) :
    isPrivateIP (some ip) = true ↔ IsLocal ip := by
  unfold IsLocal
  rcases to4_cases length with ⟨a, b, c, d, mapped⟩ | whole
  · rw [isPrivateIP_v4 mapped unicast, mapped, Option.getD_some, local_v4_iff]
  · match ip, length with
    | a :: b :: rest, length =>
        have shorter : rest.length = 14 := by simpa using length
        rw [isPrivateIP_v6 shorter whole unicast, whole, Option.getD_none,
          local_v6_iff a b rest shorter]

end Ranges

namespace Netip

def isAddressChar (char : Char) : Bool := isHexDigit char || char == ':' || char == '.'

structure ParsedFields (text : List Char) (result : List UInt8) : Prop where
  chars : ∀ char ∈ text, isAddressChar char = true
  length : result.length = 4

theorem isAddressChar_digit {char : Char} (digit : char.isDigit = true) :
    isAddressChar char = true := by
  simp [isAddressChar, isHexDigit, digit]

theorem parseIPv4Fields_parsed {text : List Char} {value digits : Nat}
    {fields result : List UInt8} (room : fields.length ≤ 3)
    (found : parseIPv4Fields text value digits fields = some result) :
    ParsedFields text result := by
  induction text generalizing value digits fields with
  | nil =>
      unfold parseIPv4Fields at found
      split at found
      · cases found
      · cases found
        refine ⟨by simp, ?_⟩
        rw [List.length_append, List.length_singleton]
        omega
  | cons char rest ih =>
      unfold parseIPv4Fields at found
      split at found
      · rename_i digit
        split at found
        · cases found
        · dsimp only at found
          split at found
          · cases found
          · have later := ih room found
            exact ⟨List.forall_mem_cons.mpr ⟨isAddressChar_digit digit, later.chars⟩,
              later.length⟩
      · split at found
        · rename_i dot
          split at found
          · cases found
          · split at found
            · cases found
            · have later := ih (by rw [List.length_append, List.length_singleton]; omega) found
              refine ⟨List.forall_mem_cons.mpr ⟨?_, later.chars⟩, later.length⟩
              rw [dot]
              decide
        · cases found

/-- Everything but what the loop leaves is made of the characters of an address. -/
structure ParsedGroups (text rest : List Char) (filled : List UInt8) : Prop where
  chars : ∀ char ∈ text, isAddressChar char = true ∨ char ∈ rest
  length : filled.length ≤ 16

theorem forall_mem_colons {property : Char → Prop} {rest : List Char} (colon : property ':')
    (later : ∀ char ∈ rest, property char) : ∀ char ∈ ':' :: ':' :: rest, property char :=
  List.forall_mem_cons.mpr ⟨colon, List.forall_mem_cons.mpr ⟨colon, later⟩⟩

theorem hexGroup_length (digits : List Char) : (hexGroup digits).length = 2 := rfl

theorem isAddressChar_group {text : List Char} {char : Char}
    (member : char ∈ text.takeWhile isHexDigit) : isAddressChar char = true := by
  simp [isAddressChar, List.mem_takeWhile_imp member]

theorem parseIPv6Groups_parsed {groups : Nat} {text rest : List Char} {ip filled : List UInt8}
    {ellipsis place : Option Nat} (room : ip.length + 2 * groups ≤ 16)
    (found : parseIPv6Groups groups text ip ellipsis = some (rest, filled, place)) :
    ParsedGroups text rest filled := by
  induction groups generalizing text ip ellipsis with
  | zero =>
      cases found
      exact ⟨fun char member => Or.inr member, by omega⟩
  | succ groups ih =>
      unfold parseIPv6Groups at found
      dsimp only at found
      split at found
      · cases found
      · have shape : text = text.takeWhile isHexDigit ++ text.dropWhile isHexDigit :=
          List.takeWhile_append_dropWhile.symm
        have size : (ip ++ hexGroup (text.takeWhile isHexDigit)).length = ip.length + 2 := by
          rw [List.length_append, hexGroup_length]
        have within : ∀ {later : List Char}, (∀ char ∈ text.dropWhile isHexDigit,
            isAddressChar char = true ∨ char ∈ later) →
            ∀ char ∈ text, isAddressChar char = true ∨ char ∈ later := by
          intro later behind char member
          rw [shape] at member
          rcases List.mem_append.mp member with digit | after
          · exact Or.inl (isAddressChar_group digit)
          · exact behind char after
        split at found
        · rename_i ended
          cases found
          refine ⟨within (by simp [ended]), by omega⟩
        · cases found
        · rename_i more ended
          split at found
          · cases found
          · split at found
            · rename_i last
              cases found
              refine ⟨within ?_, by omega⟩
              rw [ended, last]
              exact forall_mem_colons (Or.inl (by decide)) (by simp)
            · have later := ih (by omega) found
              refine ⟨within ?_, later.length⟩
              rw [ended]
              exact forall_mem_colons (Or.inl (by decide)) later.chars
        · rename_i more ended
          have later := ih (by omega) found
          refine ⟨within ?_, later.length⟩
          rw [ended]
          exact List.forall_mem_cons.mpr ⟨Or.inl (by decide), later.chars⟩
        · rename_i ended
          split at found
          · cases found
          · rename_i fits
            obtain ⟨fields, parsed, same⟩ := Option.map_eq_some_iff.mp found
            cases same
            have dotted := parseIPv4Fields_parsed (by simp) parsed
            refine ⟨fun char member => Or.inl (dotted.chars char member), ?_⟩
            rw [List.length_append, dotted.length]
            omega
        · cases found

theorem expandEllipsis_parsed {text : List Char} {ip result : List UInt8} {ellipsis : Option Nat}
    (room : ip.length ≤ 16) (found : expandEllipsis (text, ip, ellipsis) = some result) :
    text = [] ∧ result.length = 16 := by
  unfold expandEllipsis at found
  dsimp only at found
  split at found
  · cases found
  · rename_i empty
    refine ⟨not_not.mp empty, ?_⟩
    split at found
    · split at found
      · cases found
      · cases found
        omega
    · split at found
      · cases found
        simp only [List.length_append, List.length_take, List.length_replicate, List.length_drop]
        omega
      · cases found

theorem groups_parsed {text : List Char} {ellipsis : Option Nat} {result : List UInt8}
    (found : (parseIPv6Groups 8 text [] ellipsis).bind expandEllipsis = some result) :
    (∀ char ∈ text, isAddressChar char = true) ∧ result.length = 16 := by
  obtain ⟨⟨rest, filled, place⟩, parsed, expanded⟩ := Option.bind_eq_some_iff.mp found
  have groups := parseIPv6Groups_parsed (by simp) parsed
  obtain ⟨rfl, length⟩ := expandEllipsis_parsed groups.length expanded
  exact ⟨fun char member => (groups.chars char member).resolve_right (by simp), length⟩

theorem parseIPv6Address_parsed {text : List Char} {result : List UInt8}
    (found : parseIPv6Address text = some result) :
    (∀ char ∈ text, isAddressChar char = true) ∧ result.length = 16 := by
  unfold parseIPv6Address at found
  split at found
  · cases found
    exact ⟨forall_mem_colons (by decide) (by simp), by simp⟩
  · obtain ⟨chars, length⟩ := groups_parsed found
    exact ⟨forall_mem_colons (by decide) chars, length⟩
  · exact groups_parsed found

end Netip

theorem takeWhile_ne_append {char : Char} {front : List Char} (absent : char ∉ front)
    (back : List Char) :
    (front ++ back).takeWhile (· != char) = front ++ back.takeWhile (· != char) := by
  apply List.takeWhile_append_of_pos
  intro other member
  simp only [bne_iff_ne, ne_eq]
  rintro rfl
  exact absent member

theorem Net.parseIP_parsed {text : List Char} {ip : IP} (found : Net.parseIP text = some ip) :
    (∀ char ∈ text, Netip.isAddressChar char = true) ∧ ip.length = 16 := by
  unfold Net.parseIP at found
  split at found
  · rename_i address parsed
    cases found
    unfold Netip.parseAddr at parsed
    split at parsed
    · obtain ⟨fields, dotted, same⟩ := Option.map_eq_some_iff.mp parsed
      cases same
      have fit := Netip.parseIPv4Fields_parsed (by simp) dotted
      refine ⟨fit.chars, ?_⟩
      rw [List.length_append, fit.length]
      rfl
    · unfold Netip.parseIPv6 at parsed
      dsimp only at parsed
      split at parsed
      · cases parsed
      · rename_i zoned
        obtain ⟨result, address, same⟩ := Option.map_eq_some_iff.mp parsed
        obtain ⟨rfl, unzoned⟩ := Prod.mk.inj same
        have absent : '%' ∉ text := fun present => zoned ⟨present, unzoned⟩
        have whole : text.takeWhile (· != '%') = text := by
          simpa using takeWhile_ne_append absent []
        rw [whole] at address
        exact Netip.parseIPv6Address_parsed address
    · cases parsed
  · cases found

theorem Net.parseIP_none {text : List Char} {char : Char} (member : char ∈ text)
    (foreign : Netip.isAddressChar char = false) : Net.parseIP text = none := by
  rw [Option.eq_none_iff_forall_ne_some]
  intro ip found
  rw [(Net.parseIP_parsed found).1 char member] at foreign
  cases foreign

section Peers

theorem splitLastColon_append (before port : List Char) (last : ':' ∉ port) :
    Net.splitLastColon (before ++ ':' :: port) = some (before, port) := by
  have tail : (before ++ ':' :: port).reverse.takeWhile (· != ':') = port.reverse := by
    rw [List.reverse_append, List.reverse_cons, List.append_assoc,
      takeWhile_ne_append (by simpa using last)]
    simp
  unfold Net.splitLastColon
  rw [if_pos (by simp), tail, List.reverse_reverse]
  have place : (before ++ ':' :: port).length - port.length - 1 = before.length := by
    rw [List.length_append, List.length_cons]
    omega
  dsimp only
  rw [place, List.take_left]

theorem not_mem_digits {port : List Char} (digits : ∀ char ∈ port, char.isDigit = true)
    {char : Char} (foreign : char.isDigit = false) : char ∉ port := by
  intro member
  rw [digits char member] at foreign
  cases foreign

def joinHostPort (host port : List Char) : List Char :=
  if ':' ∈ host then '[' :: host ++ ']' :: ':' :: port else host ++ ':' :: port

structure Peer where
  host : List Char
  zone : Option (List Char) := none
  port : List Char
  ip : IP
  parsed : Net.parseIP host = some ip
  unicast : ip.isMulticast = false
  digits : ∀ char ∈ port, char.isDigit = true

/-- The text of a peer in `RemoteAddr`, as `net.TCPAddr` prints it. -/
def Peer.remoteAddr (peer : Peer) : List Char :=
  joinHostPort (peer.host ++ peer.zone.elim [] ('%' :: ·)) peer.port

variable (peer : Peer)

theorem Peer.not_mem_host {char : Char} (foreign : Netip.isAddressChar char = false) :
    char ∉ peer.host := by
  intro member
  rw [(Net.parseIP_parsed peer.parsed).1 char member] at foreign
  cases foreign

theorem splitHostPort_plain {host port : List Char} (colon : ':' ∉ host) (opening : '[' ∉ host)
    (closing : ']' ∉ host) (digits : ∀ char ∈ port, char.isDigit = true) :
    Net.splitHostPort (host ++ ':' :: port) = some (host, port) := by
  have outside := fun char => @not_mem_digits port digits char
  unfold Net.splitHostPort
  rw [splitLastColon_append host port (outside ':' (by decide))]
  dsimp only
  split
  · rename_i rest shape
    cases host with
    | nil => cases shape
    | cons first more =>
        obtain ⟨rfl, _⟩ := List.cons.inj shape
        exact absurd List.mem_cons_self opening
  · rw [if_neg]
    simp [colon, opening, closing, outside '[' (by decide), outside ']' (by decide)]

theorem splitHostPort_bracketed {host port : List Char} (opening : '[' ∉ host)
    (closing : ']' ∉ host) (digits : ∀ char ∈ port, char.isDigit = true) :
    Net.splitHostPort ('[' :: host ++ ']' :: ':' :: port) = some (host, port) := by
  have outside := fun char => @not_mem_digits port digits char
  have shape : '[' :: host ++ ']' :: ':' :: port = ('[' :: host ++ [']']) ++ ':' :: port := by simp
  have inner : (host ++ ']' :: ':' :: port).takeWhile (· != ']') = host := by
    rw [takeWhile_ne_append closing]
    simp
  unfold Net.splitHostPort
  rw [shape, splitLastColon_append _ port (outside ':' (by decide)), ← shape]
  simp only [List.cons_append, inner]
  rw [if_pos]
  simp [opening, outside '[' (by decide), outside ']' (by decide)]

theorem getClientIP_plain (unscoped : peer.zone = none) :
    getClientIP peer.remoteAddr = some peer.ip := by
  have opening : '[' ∉ peer.host := peer.not_mem_host (by decide)
  have closing : ']' ∉ peer.host := peer.not_mem_host (by decide)
  have split : Net.splitHostPort peer.remoteAddr = some (peer.host, peer.port) := by
    unfold Peer.remoteAddr joinHostPort
    rw [unscoped, Option.elim_none, List.append_nil]
    split
    · exact splitHostPort_bracketed opening closing peer.digits
    · rename_i colon
      exact splitHostPort_plain colon opening closing peer.digits
  rw [getClientIP, split]
  exact peer.parsed

theorem percent_mem_host {host port : List Char} {zone : List Char} (opening : '[' ∉ host)
    (closing : ']' ∉ host) (digits : ∀ char ∈ port, char.isDigit = true)
    {taken rest : List Char}
    (split : Net.splitHostPort (joinHostPort (host ++ '%' :: zone) port) = some (taken, rest)) :
    '%' ∈ taken := by
  unfold joinHostPort at split
  split at split
  · have inner : (host ++ '%' :: zone ++ ']' :: ':' :: port).takeWhile (· != ']') =
        host ++ '%' :: (zone ++ ']' :: ':' :: port).takeWhile (· != ']') := by
      rw [List.append_assoc, takeWhile_ne_append closing]
      simp
    unfold Net.splitHostPort at split
    split at split
    · cases split
    · simp only [List.cons_append, inner] at split
      split at split
      · cases split
        simp
      · cases split
  · unfold Net.splitHostPort at split
    rw [splitLastColon_append _ port (not_mem_digits digits (by decide))] at split
    dsimp only at split
    split at split
    · rename_i more shape
      cases host with
      | nil => cases shape
      | cons first later =>
          obtain ⟨rfl, _⟩ := List.cons.inj shape
          exact absurd List.mem_cons_self opening
    · split at split
      · cases split
      · cases split
        simp

theorem getClientIP_zoned {zone : List Char} (zoned : peer.zone = some zone) :
    getClientIP peer.remoteAddr = none := by
  have opening : '[' ∉ peer.host := peer.not_mem_host (by decide)
  have closing : ']' ∉ peer.host := peer.not_mem_host (by decide)
  have shape : peer.remoteAddr = joinHostPort (peer.host ++ '%' :: zone) peer.port := by
    rw [Peer.remoteAddr, zoned, Option.elim_some]
  rw [shape, getClientIP]
  split
  · rename_i taken rest split
    exact Net.parseIP_none (percent_mem_host opening closing peer.digits split) (by decide)
  · refine @Net.parseIP_none _ '%' ?_ (by decide)
    unfold joinHostPort
    split
    · simp
    · simp

end Peers

/-- The next handler gets the requests of local peers, and all others are refused. -/
structure AdmitsLocal (peer : Peer) : Prop where
  next : localOnlyMiddleware peer.remoteAddr = .next ↔ IsLocal peer.ip
  refused : ¬IsLocal peer.ip →
    ∃ text, localOnlyMiddleware peer.remoteAddr = .error text statusForbidden

theorem localOnlyMiddleware_plain (peer : Peer) (unscoped : peer.zone = none) :
    localOnlyMiddleware peer.remoteAddr =
      if IsLocal peer.ip then .next
      else .error "Forbidden: access restricted to local network" statusForbidden := by
  have decided := isPrivateIP_iff (Net.parseIP_parsed peer.parsed).2 peer.unicast
  unfold localOnlyMiddleware
  rw [getClientIP_plain peer unscoped]
  dsimp only
  by_cases admitted : IsLocal peer.ip
  · rw [decided.mpr admitted, if_pos admitted]
    rfl
  · have notPrivate : isPrivateIP (some peer.ip) = false := by
      rw [← Bool.not_eq_true, decided]
      exact admitted
    rw [notPrivate, if_neg admitted]
    rfl

theorem localOnlyMiddleware_zoned (peer : Peer) {zone : List Char} (zoned : peer.zone = some zone) :
    localOnlyMiddleware peer.remoteAddr =
      .error "Forbidden: unable to determine client IP" statusForbidden := by
  rw [localOnlyMiddleware, getClientIP_zoned peer zoned]

/-- Peers are let through by their address exactly when they have no zone or are to be
refused anyway: no scoped peer is ever let through. -/
theorem local_only_admits_iff (peer : Peer) :
    AdmitsLocal peer ↔ peer.zone = none ∨ ¬IsLocal peer.ip := by
  cases zoned : peer.zone with
  | none =>
      have plain := localOnlyMiddleware_plain peer zoned
      refine iff_of_true ⟨?_, ?_⟩ (Or.inl rfl)
      · rw [plain]
        split
        · simp [*]
        · simp [*]
      · intro foreign
        rw [plain, if_neg foreign]
        exact ⟨_, rfl⟩
  | some zone =>
      have refused := localOnlyMiddleware_zoned peer zoned
      constructor
      · intro admits
        refine Or.inr fun admitted => ?_
        have passed := admits.next.mpr admitted
        rw [refused] at passed
        cases passed
      · intro foreign
        have notLocal : ¬IsLocal peer.ip := by simpa using foreign
        refine ⟨?_, fun _ => ⟨_, refused⟩⟩
        rw [refused]
        simp [notLocal]

def linkLocalPeer (zone : Option (List Char)) : Peer where
  host := "fe80::1".toList
  zone := zone
  port := "1234".toList
  ip := [0xfe, 0x80, 0, 0, 0, 0, 0, 0, 0, 0, 0, 0, 0, 0, 0, 1]
  parsed := by decide
  unicast := by decide
  digits := List.all_eq_true.mp (by decide)

theorem unscoped_link_local_admitted :
    localOnlyMiddleware (linkLocalPeer none).remoteAddr = .next :=
  ((local_only_admits_iff (linkLocalPeer none)).mpr (Or.inl rfl)).next.mpr (by decide +kernel)

theorem scoped_link_local_refused :
    (linkLocalPeer (some "eth0".toList)).remoteAddr = "[fe80::1%eth0]:1234".toList ∧
      IsLocal (linkLocalPeer (some "eth0".toList)).ip ∧
      localOnlyMiddleware (linkLocalPeer (some "eth0".toList)).remoteAddr =
        .error "Forbidden: unable to determine client IP" 403 := by
  decide +kernel

end EdgeHealthd
