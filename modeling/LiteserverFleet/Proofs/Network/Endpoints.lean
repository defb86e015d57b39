import Mathlib.Data.Nat.Digits.Defs
import LiteserverFleet.Proofs.Network.Indices
import LiteserverFleet.Proofs.Network.Liteservers
import LiteserverFleet.Proofs.Text.Separators

/-!
# Endpoints as text

The octets of an endpoint are the digits of its address to the base 256 (`ofDigits_octets`), and its text reads as no
other numbers (`endpointText_eq_dotted_iff`).  Two endpoints have one text only if their addresses and ports are the
same, so no two lines of a listing show different endpoints alike (`endpoints_told_apart`).
-/

set_option autoImplicit false

namespace LiteserverFleet

namespace Liteserver

variable (server other : Liteserver)

/-- The address is stored as a signed number of 32 bits. -/
def InWord : Prop :=
  -0x80000000 ≤ server.ip.toInt ∧ server.ip.toInt < 0x80000000

instance : Decidable server.InWord :=
  inferInstanceAs (Decidable (_ ∧ _))

theorem address_eq_emod : (server.address : Int) = server.ip.toInt % 0x100000000 :=
  Int.toNat_of_nonneg (Int.emod_nonneg _ (by decide))

theorem address_lt : server.address < 0x100000000 := by
  have less := Int.emod_lt_of_pos server.ip.toInt (b := 0x100000000) (by decide)
  rw [← address_eq_emod] at less
  omega

theorem octets_lt : ∀ octet ∈ server.octets, octet < 256 := by
  simp only [octets, List.forall_mem_cons]
  exact ⟨Nat.mod_lt _ (by decide), Nat.mod_lt _ (by decide), Nat.mod_lt _ (by decide),
    Nat.mod_lt _ (by decide), nofun⟩

/-- The octets are the digits of the address to the base 256, the most significant one first. -/
theorem ofDigits_octets : Nat.ofDigits 256 server.octets.reverse = server.address := by
  have less := server.address_lt
  simp only [octets, List.reverse_cons, List.reverse_nil, List.nil_append, List.cons_append,
    Nat.ofDigits_cons, Nat.ofDigits_nil]
  omega

theorem addressText_eq_dotted : server.addressText = Text.dotted server.octets :=
  rfl

theorem notMem_addressText {c : Char} (noDigit : c.isDigit = false) (noDot : c ≠ '.') :
    c ∉ server.addressText.toList := by
  rw [addressText_eq_dotted]
  exact Text.notMem_dotted noDigit noDot server.octets

theorem endpointText_toList :
    server.endpointText.toList = server.addressText.toList ++ ':' :: Nat.toDigits 10 server.port.toNat := by
  simp [endpointText]

theorem notMem_endpointText {c : Char} (noDigit : c.isDigit = false) (noDot : c ≠ '.') (noColon : c ≠ ':') :
    c ∉ server.endpointText.toList := by
  rw [endpointText_toList, List.mem_append, List.mem_cons]
  rintro (inAddress | isColon | inPort)
  · exact server.notMem_addressText noDigit noDot inAddress
  · exact noColon isColon
  · exact Text.notMem_toDigits noDigit _ inPort

variable {server other}

/-- The numbers that an endpoint shows are its octets and its port. -/
theorem endpointText_eq_dotted_iff {numbers : List Nat} {port : Nat} :
    server.endpointText = Text.dotted numbers ++ ":" ++ toString port ↔
      numbers = server.octets ∧ port = server.port.toNat := by
  constructor
  · intro same
    have letters := congrArg String.toList same
    have whole : (Text.dotted numbers ++ ":" ++ toString port).toList =
        (Text.dotted numbers).toList ++ ':' :: Nat.toDigits 10 port := by
      simp
    rw [whole, endpointText_toList] at letters
    obtain ⟨addresses, ports⟩ := Text.eq_of_separated (server.notMem_addressText (by decide) (by decide))
      (Text.notMem_dotted (by decide) (by decide) numbers) letters
    rw [addressText_eq_dotted] at addresses
    exact ⟨Text.dotted_injective (String.toList_inj.mp addresses.symm), Text.toDigits_injective ports.symm⟩
  · rintro ⟨rfl, rfl⟩
    rfl

theorem endpointText_eq_iff :
    server.endpointText = other.endpointText ↔ server.address = other.address ∧ server.port = other.port := by
  constructor
  · intro same
    obtain ⟨octets, port⟩ := endpointText_eq_dotted_iff.mp (same : _ = Text.dotted other.octets ++ ":" ++ _)
    refine ⟨?_, UInt16.toNat_inj.mp port.symm⟩
    rw [← ofDigits_octets, ← ofDigits_octets, octets]
  · rintro ⟨address, port⟩
    simp only [endpointText, addressText, octets, address, port]

theorem InWord.ip_eq (word : server.InWord) (wordToo : other.InWord) (same : server.address = other.address) :
    server.ip = other.ip := by
  have addresses := server.address_eq_emod
  rw [same, other.address_eq_emod] at addresses
  obtain ⟨least, less⟩ := word
  obtain ⟨leastToo, lessToo⟩ := wordToo
  exact Int64.toInt_inj.mp (by omega)

theorem InWord.endpointText_eq_iff (word : server.InWord) (wordToo : other.InWord) :
    server.endpointText = other.endpointText ↔ server.ip = other.ip ∧ server.port = other.port := by
  rw [Liteserver.endpointText_eq_iff]
  constructor
  · rintro ⟨address, port⟩
    exact ⟨word.ip_eq wordToo address, port⟩
  · rintro ⟨ip, port⟩
    exact ⟨by rw [address, address, ip], port⟩

end Liteserver

/-! ## Endpoints in a listing -/

/-- A line of a listing shows an endpoint: it stands behind the index, between the first two blanks. -/
def ShowsEndpoint (lines : List String) (i : Nat) (endpoint : String) : Prop :=
  ' ' ∉ endpoint.toList ∧ ∃ key, lines[i]? = some (toString i ++ " " ++ endpoint ++ " " ++ key)

theorem showsEndpoint_iff {servers : List Liteserver} {i : Nat} {endpoint : String} :
    ShowsEndpoint (servers.mapIdx Liteserver.listingLine) i endpoint ↔
      ∃ server, servers[i]? = some server ∧ server.endpointText = endpoint := by
  unfold ShowsEndpoint
  rw [List.getElem?_mapIdx]
  constructor
  · rintro ⟨noBlank, key, isLine⟩
    obtain ⟨server, isServer, line⟩ := Option.map_eq_some_iff.mp isLine
    refine ⟨server, isServer, ?_⟩
    have letters := congrArg String.toList line
    simp only [Liteserver.listingLine, String.toList_append, List.append_assoc, List.append_cancel_left_eq] at letters
    exact String.toList_inj.mp
      (Text.eq_of_separated (server.notMem_endpointText (by decide) (by decide) (by decide)) noBlank letters).1
  · rintro ⟨server, isServer, rfl⟩
    refine ⟨server.notMem_endpointText (by decide) (by decide) (by decide), server.id.key, ?_⟩
    rw [isServer]
    rfl

/-- The text of an endpoint shows four octets and the port, and reads as no other numbers; the octets are the address
modulo 2 ^ 32, the most significant one first.  Two endpoints with addresses of 32 bits have one text only if they are
the same, so in a listing of such endpoints two lines that show one endpoint are about the same address and port. -/
theorem endpoints_told_apart :
    (∀ server : Liteserver,
      (∀ numbers port, server.endpointText = Text.dotted numbers ++ ":" ++ toString port ↔
        numbers = server.octets ∧ port = server.port.toNat) ∧
      server.octets.length = 4 ∧ (∀ octet ∈ server.octets, octet < 256) ∧
      ((Nat.ofDigits 256 server.octets.reverse : Nat) : Int) = server.ip.toInt % 0x100000000) ∧
    (∀ server other : Liteserver, server.InWord → other.InWord →
      (server.endpointText = other.endpointText ↔ server.ip = other.ip ∧ server.port = other.port)) ∧
    ∀ (config : NetworkConfig) (lines : List String) (servers : List Liteserver),
      listConfig config = .ok lines → config.liteservers = .ok servers → (∀ server ∈ servers, server.InWord) →
        ∀ i j endpoint, ShowsEndpoint lines i endpoint → ShowsEndpoint lines j endpoint →
          ∃ server other, servers[i]? = some server ∧ servers[j]? = some other ∧
            server.endpointText = endpoint ∧ server.ip = other.ip ∧ server.port = other.port := by
  refine ⟨?octets, fun _ _ => Liteserver.InWord.endpointText_eq_iff, ?listing⟩
  case octets =>
    intro server
    refine ⟨fun _ _ => Liteserver.endpointText_eq_dotted_iff, rfl, server.octets_lt, ?_⟩
    rw [server.ofDigits_octets]
    exact server.address_eq_emod
  case listing =>
    intro config lines servers listed decoded words i j endpoint shown shownToo
    obtain ⟨same, decodedToo, rfl⟩ := NetworkConfig.listConfig_eq_ok listed
    cases decoded.symm.trans decodedToo
    obtain ⟨server, isServer, text⟩ := showsEndpoint_iff.mp shown
    obtain ⟨other, isOther, textToo⟩ := showsEndpoint_iff.mp shownToo
    have word := words server (List.mem_of_getElem? isServer)
    have wordToo := words other (List.mem_of_getElem? isOther)
    obtain ⟨ip, port⟩ := (word.endpointText_eq_iff wordToo).mp (text.trans textToo.symm)
    exact ⟨server, other, isServer, isOther, text, ip, port⟩

/-- Two entries with one address, which is stored as a negative number, and one port are listed under one endpoint; an
entry with another address is not, even with this port. -/
theorem endpoints_told_apart_negative :
    let server (ip : Int64) (key : String) : Liteserver := { ip, port := 7, id := { keyType := "p", key } }
    let first := server (-2018135749) "A"
    let second := server (-2018135749) "B"
    let third := server 1 "C"
    let config := NetworkConfig.ofServers [first, second, third]
    let lines := ["0 135.181.177.59:7 A", "1 135.181.177.59:7 B", "2 0.0.0.1:7 C"]
    listConfig config = .ok lines ∧ config.liteservers = .ok [first, second, third] ∧
      (∀ each ∈ [first, second, third], each.InWord) ∧
        ((Nat.ofDigits 256 [135, 181, 177, 59].reverse : Nat) : Int) = -2018135749 % 0x100000000 ∧
          first.endpointText ≠ third.endpointText ∧
            ShowsEndpoint lines 0 "135.181.177.59:7" ∧ ShowsEndpoint lines 1 "135.181.177.59:7" ∧
              first.ip = second.ip ∧ first.port = second.port := by
  intro server first second third config lines
  obtain ⟨octets, texts, listing⟩ := endpoints_told_apart
  have decoded : config.liteservers = .ok [first, second, third] := NetworkConfig.liteservers_ofServers _
  have isLines : [first, second, third].mapIdx Liteserver.listingLine = lines := by decide +kernel
  have listed : listConfig config = .ok lines := by
    rw [NetworkConfig.listConfig_of_liteservers decoded, isLines]
  have words : ∀ each ∈ [first, second, third], each.InWord := by decide
  obtain ⟨shows, -, -, value⟩ := octets first
  have read : [135, 181, 177, 59] = first.octets := ((shows [135, 181, 177, 59] 7).mp (by decide +kernel)).1
  have stored : first.ip.toInt = -2018135749 := by decide
  rw [← read, stored] at value
  have apart : first.endpointText ≠ third.endpointText := by
    have different : first.ip ≠ third.ip := by decide
    intro same
    exact different ((texts first third (words first (by decide)) (words third (by decide))).mp same).1
  have shown (i : Nat) (key : String)
      (isLine : lines[i]? = some (toString i ++ " " ++ "135.181.177.59:7" ++ " " ++ key)) :
      ShowsEndpoint lines i "135.181.177.59:7" :=
    ⟨by decide, key, isLine⟩
  have shownFirst := shown 0 "A" (by decide +kernel)
  have shownSecond := shown 1 "B" (by decide +kernel)
  obtain ⟨_, _, isFirst, isSecond, -, ip, port⟩ :=
    listing config lines _ listed decoded words 0 1 _ shownFirst shownSecond
  cases isFirst
  cases isSecond
  exact ⟨listed, decoded, words, value, apart, shownFirst, shownSecond, ip, port⟩

end LiteserverFleet
