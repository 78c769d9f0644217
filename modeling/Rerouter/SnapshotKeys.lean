import Rerouter.ActionProjection
import Rerouter.Lib.Joined
import Rerouter.Projections
import Rerouter.TemplateRendering

/-!
# The keys of snapshots

A snapshot has two keys: one in the map of the states that earlier actions leave
(`Rerouter.stateKey`), and one in the projection of a device
(`Rerouter.DeviceStateSnapshot.key`). Both join the fields of the snapshot with colons, and the
fields themselves are free to contain colons: an address of IPv6 does.

* The two keys were written apart, and they agree on which snapshots of a device are alike
  (`Rerouter.stateKey_eq_iff_key_eq`): each of them tells the kind of a snapshot and its object.
* A snapshot is one of a resource (`Rerouter.StateOf`): of a list, of a route, of a neighbor and a
  network. Its object tells the resource (`Rerouter.Resource.text_inj`), wherever the colons leave
  it to be told.

| parts of an object | what ends the first one |
|---|---|
| network, next hop | the first slash, and the first colon behind it |
| neighbor, direction | a letter that is in no address |
| neighbor of IPv4, anything | the first colon |
| neighbor of IPv6, something without colons | the last colon |

What is left is a neighbor of IPv6 with a network of IPv6 behind it. Two of these may be written
alike (`Rerouter.keys_of_ipv6_collide`). No action is planned on them, because a neighbor is a
parameter of IPv4.
-/

namespace Rerouter

open Text

/-! ### Two keys of one state -/

/-- A kind, as a key of the projection begins. -/
def StateKind.group : StateKind → Text
  | prefixList => "prefix-list"
  | ipv4StaticRoute => "v4-route"
  | ipv6StaticRoute => "v6-route"
  | routeResolution => "route-resolution"
  | bgpAdvertisement => "advertisement"
  | bgpRoute => "bgp-route"
  | neighborShutdown | bgpNeighborState => "neighbor"
  | routeMapAssignment => "peer"
  | exportPolicyAttachment => "export-policy"
  | interfaceAdmin | interfaceOperational | interfaceMss => "interface"

/-- And as it ends, where kinds begin alike. -/
def StateKind.aspect : StateKind → Option Text
  | neighborShutdown => some "shutdown"
  | bgpNeighborState => some "operational"
  | interfaceAdmin => some "admin"
  | interfaceOperational => some "operational"
  | interfaceMss => some "mss"
  | _ => none

/-- An object, and the aspect of it behind a colon. -/
def withAspect (object : Text) : Option Text → Text
  | some aspect => object ++ ':' :: aspect
  | none => object

section Keys

variable {device : ℕ} {s s' : DeviceStateSnapshot} {k k' : StateKind} {o o' : Text}

theorem key_eq (s : DeviceStateSnapshot) :
    s.key = s.kind.group ++ ':' :: withAspect s.object s.kind.aspect := by
  cases s <;> rfl

theorem colon_not_mem_group (k : StateKind) : ':' ∉ k.group := by
  cases k <;> decide

theorem colon_not_mem_aspect {t : Text} (h : k.aspect = some t) : ':' ∉ t := by
  cases k <;> cases h <;> decide

/-- Kinds that begin alike either all end in an aspect, or none of them does. -/
theorem isSome_aspect_of_group (h : k.group = k'.group) : k.aspect.isSome = k'.aspect.isSome := by
  cases k <;> cases k' <;> first | rfl | exact absurd h (by decide)

theorem group_aspect_injective (hgroup : k.group = k'.group) (haspect : k.aspect = k'.aspect) :
    k = k' := by
  cases k <;> cases k' <;> first
    | rfl
    | exact absurd hgroup (by decide)
    | exact absurd haspect (by decide)

theorem withAspect_inj (hgroup : k.group = k'.group)
    (h : withAspect o k.aspect = withAspect o' k'.aspect) :
    k = k' ∧ o = o' := by
  have hsome := isSome_aspect_of_group hgroup
  cases hk : k.aspect with
  | none =>
    rw [hk] at hsome h
    have hk' : k'.aspect = none := Option.not_isSome_iff_eq_none.mp (hsome ▸ Bool.false_ne_true)
    rw [hk'] at h
    exact ⟨group_aspect_injective hgroup (hk.trans hk'.symm), h⟩
  | some t =>
    rw [hk] at hsome h
    obtain ⟨t', hk'⟩ := Option.isSome_iff_exists.mp hsome.symm
    rw [hk'] at h
    obtain ⟨hobject, rfl⟩ :=
      append_cons_inj_last (colon_not_mem_aspect hk) (colon_not_mem_aspect hk') h
    exact ⟨group_aspect_injective hgroup (hk.trans hk'.symm), hobject⟩

/-- **A key of the projection tells the kind and the object.** -/
theorem key_inj : s.key = s'.key ↔ s.kind = s'.kind ∧ s.object = s'.object := by
  rw [key_eq, key_eq]
  constructor
  · intro h
    obtain ⟨hgroup, h⟩ := append_cons_inj (colon_not_mem_group _) (colon_not_mem_group _) h
    exact withAspect_inj hgroup h
  · rintro ⟨hkind, hobject⟩
    rw [hkind, hobject]

/-- **The two keys agree** on which states of a device are alike. -/
theorem stateKey_eq_iff_key_eq : stateKey device s = stateKey device s' ↔ s.key = s'.key := by
  rw [stateKey_inj, key_inj]
  exact and_iff_right rfl

end Keys

/-! ### What a state describes -/

/-- The text of an address. -/
def addressText : Flow.IpAddr → Text
  | .v4 a => Ipv4.addrText a
  | .v6 a => Ipv6.addrText a

/-- Whether an address is one of IPv4. -/
def Flow.IpAddr.isIpv4 : Flow.IpAddr → Bool
  | .v4 _ => true
  | .v6 _ => false

/-- The first address of a network. -/
def Network.address : Network → Flow.IpAddr
  | .v4 net _ => .v4 net
  | .v6 net _ => .v6 net

/-- A network as it is written: its length is one of its family, and nothing stands behind it. -/
structure Network.Written (N : Network) : Prop where
  fits : N.Fits
  cut : N.cut = N

/-- A direction, as a state spells it. -/
def directionText (inbound : Bool) : Text := if inbound then "in" else "out"

/-- What there is on a router. -/
inductive Resource where
  | prefixList (name : Text)
  | ipv4StaticRoute (network : Network) (nextHop : Text) (tag : Option ℕ)
  | ipv6StaticRoute (network : Network) (nextHop : Text) (tag : Option ℕ)
  | routeResolution (network : Network) (nextHop : Text)
  | bgpAdvertisement (neighbor : Flow.IpAddr) (network : Network)
  | bgpRoute (network : Network)
  | neighborShutdown (neighbor : Flow.IpAddr)
  | bgpNeighborState (neighbor : Flow.IpAddr)
  | routeMapAssignment (neighbor : Flow.IpAddr) (inbound : Bool) (addressFamily : Option Text)
  | exportPolicyAttachment (neighbor : Flow.IpAddr) (addressFamily : Text)
  | interfaceAdmin (interface : Text)
  | interfaceOperational (interface : Text)
  | interfaceMss (interface : Text)
deriving DecidableEq

/-- A state describes a resource, with its addresses and networks as they are printed. -/
inductive StateOf : DeviceStateSnapshot → Resource → Prop
  | prefixList (name : Text) (entries consumers) :
    StateOf (.prefixList name entries consumers) (.prefixList name)
  | ipv4StaticRoute {N : Network} (h : N.Written) (nextHop : Text) (tag : Option ℕ)
    (present : Bool) :
    StateOf (.ipv4StaticRoute N.text nextHop tag present) (.ipv4StaticRoute N nextHop tag)
  | ipv6StaticRoute {N : Network} (h : N.Written) (nextHop : Text) (tag : Option ℕ)
    (present : Bool) :
    StateOf (.ipv6StaticRoute N.text nextHop tag present) (.ipv6StaticRoute N nextHop tag)
  | routeResolution {N : Network} (h : N.Written) (nextHop : Text) (present : Bool) :
    StateOf (.routeResolution N.text nextHop present) (.routeResolution N nextHop)
  | bgpAdvertisement (neighbor : Flow.IpAddr) {N : Network} (h : N.Written) (present : Bool)
    (community) :
    StateOf (.bgpAdvertisement (addressText neighbor) N.text present community)
      (.bgpAdvertisement neighbor N)
  | bgpRoute {N : Network} (h : N.Written) (present : Bool) (community) :
    StateOf (.bgpRoute N.text present community) (.bgpRoute N)
  | neighborShutdown (localAsn) (neighbor : Flow.IpAddr) (shutdown : Bool) :
    StateOf (.neighborShutdown localAsn (addressText neighbor) shutdown)
      (.neighborShutdown neighbor)
  | bgpNeighborState (neighbor : Flow.IpAddr) (shutdown : Bool) (state) :
    StateOf (.bgpNeighborState (addressText neighbor) shutdown state) (.bgpNeighborState neighbor)
  | routeMapAssignment (localAsn) (neighbor : Flow.IpAddr) (inbound : Bool)
    (addressFamily : Option Text) (routeMap) :
    StateOf (.routeMapAssignment localAsn (addressText neighbor) (directionText inbound)
      addressFamily routeMap)
      (.routeMapAssignment neighbor inbound addressFamily)
  | exportPolicyAttachment (a : ExportPolicyAttachment) (neighbor : Flow.IpAddr)
    (h : a.neighbor = addressText neighbor) :
    StateOf (.exportPolicyAttachment a) (.exportPolicyAttachment neighbor a.addressFamily)
  | interfaceAdmin (interface : Text) (shutdown : Bool) :
    StateOf (.interfaceAdmin interface shutdown) (.interfaceAdmin interface)
  | interfaceOperational (interface : Text) (down : Bool) :
    StateOf (.interfaceOperational interface down) (.interfaceOperational interface)
  | interfaceMss (interface : Text) (mss) :
    StateOf (.interfaceMss interface mss) (.interfaceMss interface)

namespace Resource

/-- The kind of the states that describe a resource. -/
def kind : Resource → StateKind
  | prefixList _ => .prefixList
  | ipv4StaticRoute .. => .ipv4StaticRoute
  | ipv6StaticRoute .. => .ipv6StaticRoute
  | routeResolution .. => .routeResolution
  | bgpAdvertisement .. => .bgpAdvertisement
  | bgpRoute _ => .bgpRoute
  | neighborShutdown _ => .neighborShutdown
  | bgpNeighborState _ => .bgpNeighborState
  | routeMapAssignment .. => .routeMapAssignment
  | exportPolicyAttachment .. => .exportPolicyAttachment
  | interfaceAdmin _ => .interfaceAdmin
  | interfaceOperational _ => .interfaceOperational
  | interfaceMss _ => .interfaceMss

/-- Their object. -/
def text : Resource → Text
  | prefixList name => name
  | ipv4StaticRoute N nextHop tag | ipv6StaticRoute N nextHop tag =>
    N.text ++ ':' :: nextHop ++ ':' :: optionText "None" (tag.map natText)
  | routeResolution N nextHop => N.text ++ ':' :: nextHop
  | bgpAdvertisement neighbor N => addressText neighbor ++ ':' :: N.text
  | bgpRoute N => N.text
  | neighborShutdown neighbor | bgpNeighborState neighbor => addressText neighbor
  | routeMapAssignment neighbor inbound addressFamily =>
    addressText neighbor ++ ':' :: directionText inbound ++
      ':' :: optionText "None" (addressFamily.map debugText)
  | exportPolicyAttachment neighbor addressFamily => addressText neighbor ++ ':' :: addressFamily
  | interfaceAdmin interface | interfaceOperational interface | interfaceMss interface => interface

/-- Of a neighbor and what stands behind it, one is without colons. -/
def Legible : Resource → Prop
  | bgpAdvertisement neighbor N => neighbor.isIpv4 = true ∨ N.isV6 = false
  | exportPolicyAttachment neighbor addressFamily => neighbor.isIpv4 = true ∨ ':' ∉ addressFamily
  | _ => True

end Resource

theorem StateOf.kind_eq {s : DeviceStateSnapshot} {r : Resource} (h : StateOf s r) :
    s.kind = r.kind := by
  cases h <;> rfl

theorem StateOf.object_eq {s : DeviceStateSnapshot} {r : Resource} (h : StateOf s r) :
    s.object = r.text := by
  cases h with
  | exportPolicyAttachment a neighbor h => rw [DeviceStateSnapshot.object, h, Resource.text]
  | _ => rfl

/-! ### Quoted texts -/

/-- The character that an escape stands for. -/
def readEscape : Text → Option Char
  | 'n' :: _ => some '\n'
  | 'r' :: _ => some '\r'
  | 't' :: _ => some '\t'
  | '0' :: _ => some (Char.ofNat 0)
  | 'u' :: _ :: s => some (Char.ofNat (Ipv6.hexValue (s.takeWhile fun c => c ≠ '\x7d')))
  | c :: _ => some c
  | [] => none

/-- The character that a text begins with. -/
def readDebugChar : Text → Option Char
  | '\\' :: s => readEscape s
  | c :: _ => some c
  | [] => none

/-- **The first character is read back**, whatever follows. -/
theorem readDebugChar_append (c : Char) (s : Text) : readDebugChar (debugChar c ++ s) = some c := by
  unfold debugChar
  split_ifs with hquote hslash hn hr ht hzero hcontrol
  · rw [hquote]
    rfl
  · rw [hslash]
    rfl
  · rw [hn]
    rfl
  · rw [hr]
    rfl
  · rw [ht]
    rfl
  · rw [← Char.ofNat_toNat c, hzero]
    rfl
  · obtain ⟨hdigits, hvalue⟩ := Ipv6.groupText_spec c.toNat
    -- the code point is written in hexadecimal digits, none of which is a brace
    have hbrace : ∀ d ∈ Ipv6.groupText c.toNat, decide (d ≠ '\x7d') = true := fun d hd => by
      refine decide_eq_true fun heq => ?_
      have hdigit := hdigits d hd
      rw [heq] at hdigit
      exact absurd hdigit (by decide)
    have htake :
        (Ipv6.groupText c.toNat ++ '\x7d' :: s).takeWhile (fun d => d ≠ '\x7d') =
          Ipv6.groupText c.toNat := by
      rw [List.takeWhile_append_of_pos hbrace]
      simp
    have htext : ['\\', 'u', '\x7b'] ++ Nat.toDigits 16 c.toNat ++ ['\x7d'] ++ s =
        '\\' :: 'u' :: '\x7b' :: (Ipv6.groupText c.toNat ++ '\x7d' :: s) := by
      simp [Ipv6.groupText]
    rw [htext]
    change some (Char.ofNat (Ipv6.hexValue _)) = _
    rw [htake, hvalue, Char.ofNat_toNat]
  · rw [List.singleton_append, readDebugChar]
    exact hslash

theorem debugText_injective {s t : Text} (h : debugText s = debugText t) : s = t := by
  rw [debugText, debugText] at h
  refine flatMap_injective_of_code (f := debugChar) (fun c hc => ?_) (fun c d r r' h => ?_)
    (List.append_cancel_right (List.tail_eq_of_cons_eq h))
  · have hread := readDebugChar_append c []
    rw [hc] at hread
    cases hread
  · have hread := readDebugChar_append c r
    rw [h, readDebugChar_append] at hread
    exact (Option.some.inj hread).symm

/-! ### The parts of a text -/

section Parts

variable {n n' : Flow.IpAddr} {N M : Network} {b b' : Text} {inbound inbound' : Bool}

theorem colon_not_mem_addressText (h : n.isIpv4 = true) : ':' ∉ addressText n := by
  cases n with
  | v4 a => exact Ipv4.not_mem_addrText (by decide) (by decide) a
  | v6 x => cases h

theorem slash_not_mem_addressText (n : Flow.IpAddr) : '/' ∉ addressText n := by
  cases n with
  | v4 a => exact Ipv4.not_mem_addrText (by decide) (by decide) a
  | v6 x => exact Ipv6.slash_not_mem_addrText x

theorem mem_addressText {c : Char} (h : c ∈ addressText n) :
    Ipv6.isHexDigit c = true ∨ c = ':' ∨ c = '.' := by
  cases n with
  | v4 a =>
    rcases Ipv4.mem_addrText h with hd | rfl
    · exact Or.inl (by simp [Ipv6.isHexDigit, hd])
    · exact Or.inr (Or.inr rfl)
  | v6 x => exact Ipv6.mem_addrText h

/-- Before the first colon of an address of IPv6 there is no dot. -/
theorem exists_head (x : Ipv6.Addr) :
    ∃ head rest, Ipv6.addrText x = head ++ ':' :: rest ∧ ':' ∉ head ∧ '.' ∉ head := by
  have hcolon : ∀ gs : List ℕ, '.' ∉ Ipv6.colonText gs := fun gs h => by
    rcases Ipv6.mem_colonText h with hd | hd
    · exact absurd hd (by decide)
    · exact absurd hd (by decide)
  by_cases hmapped : Ipv6.isMapped x = true
  · exact ⟨[], ":ffff:" ++ Ipv4.addrText (x.setWidth 32), if_pos hmapped, List.not_mem_nil,
      List.not_mem_nil⟩
  · have hdot : '.' ∉ Ipv6.addrText x := by
      rw [Ipv6.addrText, if_neg hmapped]
      split
      · rw [List.mem_append, List.mem_append, not_or, not_or]
        exact ⟨⟨hcolon _, by decide⟩, hcolon _⟩
      · exact hcolon _
    obtain ⟨head, rest, htext, hhead⟩ := List.eq_append_cons_of_mem (Ipv6.colon_mem_addrText x)
    exact ⟨head, rest, htext, hhead, fun h => hdot (htext ▸ List.mem_append_left _ h)⟩

/-- So the texts of the two families begin differently. -/
theorem v4_append_ne_v6_append (a : Ipv4.Addr) (x : Ipv6.Addr) :
    addressText (.v4 a) ++ ':' :: b ≠ addressText (.v6 x) ++ ':' :: b' := by
  intro h
  obtain ⟨head, rest, htext, hcolon, hdot⟩ := exists_head x
  rw [addressText, addressText, htext, List.append_assoc, List.cons_append] at h
  obtain ⟨hhead, -⟩ := append_cons_inj (Ipv4.not_mem_addrText (by decide) (by decide) a) hcolon h
  refine hdot ?_
  rw [← hhead, Ipv4.addrText]
  simp

theorem addressText_append_inj (h : n.isIpv4 = true ∨ ':' ∉ b) (h' : n'.isIpv4 = true ∨ ':' ∉ b')
    (heq : addressText n ++ ':' :: b = addressText n' ++ ':' :: b') :
    addressText n = addressText n' ∧ b = b' := by
  cases n with
  | v4 a =>
    cases n' with
    | v4 a' =>
      exact append_cons_inj (colon_not_mem_addressText rfl) (colon_not_mem_addressText rfl) heq
    | v6 x => exact absurd heq (v4_append_ne_v6_append a x)
  | v6 x =>
    cases n' with
    | v4 a => exact absurd heq.symm (v4_append_ne_v6_append a x)
    | v6 x' => exact append_cons_inj_last (h.resolve_left nofun) (h'.resolve_left nofun) heq

theorem addressText_injective (h : addressText n = addressText n') : n = n' := by
  cases n with
  | v4 a =>
    cases n' with
    | v4 a' =>
      have hread := congrArg Ipv4.parseAddr h
      rw [addressText, addressText, Ipv4.parseAddr_addrText, Ipv4.parseAddr_addrText] at hread
      rw [Option.some.inj hread]
    | v6 x => exact absurd (congrArg (· ++ ':' :: []) h) (v4_append_ne_v6_append a x)
  | v6 x =>
    cases n' with
    | v4 a => exact absurd (congrArg (· ++ ':' :: []) h.symm) (v4_append_ne_v6_append a x)
    | v6 x' =>
      have hread := congrArg Ipv6.parseAddr h
      rw [addressText, addressText, Ipv6.parseAddr_addrText, Ipv6.parseAddr_addrText] at hread
      rw [Option.some.inj hread]

theorem networkText_eq (N : Network) :
    N.text = addressText N.address ++ '/' :: natText N.length := by
  cases N <;> rfl

theorem network_ext (haddress : N.address = M.address) (hlength : N.length = M.length) : N = M := by
  cases N <;> cases M <;> cases haddress <;> cases hlength <;> rfl

/-- The address and the length of a network end where a colon comes. -/
theorem networkText_append_inj (h : N.text ++ ':' :: b = M.text ++ ':' :: b') : N = M ∧ b = b' := by
  rw [networkText_eq, networkText_eq, List.append_assoc, List.append_assoc, List.cons_append,
    List.cons_append] at h
  obtain ⟨haddress, h⟩ :=
    append_cons_inj (slash_not_mem_addressText _) (slash_not_mem_addressText _) h
  obtain ⟨hlength, hrest⟩ :=
    append_cons_inj (not_mem_natText (by decide) _) (not_mem_natText (by decide) _) h
  exact ⟨network_ext (addressText_injective haddress) (natText_injective hlength), hrest⟩

theorem networkText_injective (h : N.text = M.text) : N = M :=
  (networkText_append_inj (congrArg (· ++ ':' :: []) h)).1

theorem colon_not_mem_networkText (h : N.isV6 = false) : ':' ∉ N.text := by
  cases N with
  | v4 net length =>
    rw [networkText_eq, List.mem_append, List.mem_cons, not_or, not_or]
    exact ⟨colon_not_mem_addressText rfl, by decide, not_mem_natText (by decide) _⟩
  | v6 net length => cases h

/-- What is printed of an option tells what is in it, and has no colon if that has none. -/
theorem optionText_injective {t t' : Option Text} (h : optionText "None" t = optionText "None" t') :
    t = t' := by
  cases t with
  | none =>
    cases t' with
    | none => rfl
    | some u => exact absurd (congrArg List.head? h) (by simp [optionText])
  | some t =>
    cases t' with
    | none => exact absurd (congrArg List.head? h) (by simp [optionText])
    | some u =>
      rw [optionText, optionText, List.append_assoc, List.append_assoc] at h
      rw [List.append_cancel_right (List.append_cancel_left h)]

theorem colon_not_mem_tag_text (tag : Option ℕ) : ':' ∉ optionText "None" (tag.map natText) := by
  cases tag with
  | none => decide
  | some n =>
    have hn : ':' ∉ natText n := not_mem_natText (by decide) n
    simp [optionText, hn]

/-- A direction begins with a letter that is in no address. -/
theorem directionText_append_inj (h : addressText n ++ ':' :: (directionText inbound ++ ':' :: b) =
    addressText n' ++ ':' :: (directionText inbound' ++ ':' :: b')) :
    n = n' ∧ inbound = inbound' ∧ b = b' := by
  -- what an address is made of, and the colon behind it
  let part : Char → Bool := fun c => Ipv6.isHexDigit c || decide (c = ':') || decide (c = '.')
  have haddress : ∀ n : Flow.IpAddr, ∀ c ∈ addressText n ++ [':'], part c = true := by
    intro n c hc
    rcases List.mem_append.mp hc with hc | hc
    · rcases mem_addressText hc with h | rfl | rfl
      · simp [part, h]
      · rfl
      · rfl
    · rw [List.mem_singleton.mp hc]
      rfl
  have hdirection : ∀ inbound, ∃ c rest, directionText inbound = c :: rest ∧ part c = false := by
    intro inbound
    cases inbound
    · exact ⟨'o', "ut", rfl, by decide⟩
    · exact ⟨'i', "n", rfl, by decide⟩
  have hcolon : ∀ inbound, ':' ∉ directionText inbound := by
    intro inbound
    cases inbound <;> decide
  have hinjective : ∀ {inbound inbound' : Bool}, directionText inbound = directionText inbound' →
      inbound = inbound' := by
    intro inbound inbound' h
    cases inbound <;> cases inbound' <;> first | rfl | exact absurd h (by decide)
  obtain ⟨c, rest, hc, hpart⟩ := hdirection inbound
  obtain ⟨c', rest', hc', hpart'⟩ := hdirection inbound'
  have hcut : (addressText n ++ [':']) ++ c :: (rest ++ ':' :: b) =
      (addressText n' ++ [':']) ++ c' :: (rest' ++ ':' :: b') := by
    rw [hc, hc'] at h
    simpa using h
  obtain ⟨hfirst, rfl, hrest⟩ := append_cons_inj_of_all (haddress n) (haddress n') hpart hpart' hcut
  have hwhole : directionText inbound ++ ':' :: b = directionText inbound' ++ ':' :: b' := by
    rw [hc, hc', List.cons_append, List.cons_append, hrest]
  obtain ⟨hsame, hb⟩ := append_cons_inj (hcolon _) (hcolon _) hwhole
  exact ⟨addressText_injective (List.append_cancel_right hfirst), hinjective hsame, hb⟩

end Parts

/-! ### Keys identify resources -/

section Resources

variable {r r' : Resource} {s s' : DeviceStateSnapshot} {device : ℕ}

theorem routeText_inj {N M : Network} {nextHop nextHop' : Text} {tag tag' : Option ℕ}
    (h : N.text ++ ':' :: nextHop ++ ':' :: optionText "None" (tag.map natText) =
      M.text ++ ':' :: nextHop' ++ ':' :: optionText "None" (tag'.map natText)) :
    N = M ∧ nextHop = nextHop' ∧ tag = tag' := by
  rw [List.append_assoc, List.append_assoc, List.cons_append, List.cons_append] at h
  obtain ⟨hnetwork, h⟩ := networkText_append_inj h
  obtain ⟨hhop, htag⟩ :=
    append_cons_inj_last (colon_not_mem_tag_text _) (colon_not_mem_tag_text _) h
  exact ⟨hnetwork, hhop, Option.map_injective (fun _ _ => natText_injective)
    (optionText_injective htag)⟩

/-- **A text tells the resource**, among those of one kind. -/
theorem Resource.text_inj (hr : r.Legible) (hr' : r'.Legible) (hkind : r.kind = r'.kind)
    (h : r.text = r'.text) :
    r = r' := by
  cases r with
  | prefixList name =>
    cases r' with
    | prefixList name' => exact congrArg _ h
    | _ => cases hkind
  | ipv4StaticRoute N nextHop tag =>
    cases r' with
    | ipv4StaticRoute N' nextHop' tag' =>
      obtain ⟨rfl, rfl, rfl⟩ := routeText_inj h
      rfl
    | _ => cases hkind
  | ipv6StaticRoute N nextHop tag =>
    cases r' with
    | ipv6StaticRoute N' nextHop' tag' =>
      obtain ⟨rfl, rfl, rfl⟩ := routeText_inj h
      rfl
    | _ => cases hkind
  | routeResolution N nextHop =>
    cases r' with
    | routeResolution N' nextHop' =>
      obtain ⟨rfl, rfl⟩ := networkText_append_inj h
      rfl
    | _ => cases hkind
  -- one of the two sides has no colon, so the one between them is known
  | bgpAdvertisement neighbor N =>
    cases r' with
    | bgpAdvertisement neighbor' N' =>
      obtain ⟨hneighbor, hnetwork⟩ :=
        addressText_append_inj (hr.imp_right colon_not_mem_networkText)
        (hr'.imp_right colon_not_mem_networkText) h
      rw [addressText_injective hneighbor, networkText_injective hnetwork]
    | _ => cases hkind
  | bgpRoute N =>
    cases r' with
    | bgpRoute N' => rw [networkText_injective h]
    | _ => cases hkind
  | neighborShutdown neighbor =>
    cases r' with
    | neighborShutdown neighbor' => rw [addressText_injective h]
    | _ => cases hkind
  | bgpNeighborState neighbor =>
    cases r' with
    | bgpNeighborState neighbor' => rw [addressText_injective h]
    | _ => cases hkind
  | routeMapAssignment neighbor inbound addressFamily =>
    cases r' with
    | routeMapAssignment neighbor' inbound' addressFamily' =>
      rw [text, text, List.append_assoc, List.append_assoc, List.cons_append, List.cons_append] at h
      obtain ⟨rfl, rfl, hfamily⟩ := directionText_append_inj h
      rw [Option.map_injective (fun _ _ => debugText_injective) (optionText_injective hfamily)]
    | _ => cases hkind
  | exportPolicyAttachment neighbor addressFamily =>
    cases r' with
    | exportPolicyAttachment neighbor' addressFamily' =>
      obtain ⟨hneighbor, rfl⟩ := addressText_append_inj hr hr' h
      rw [addressText_injective hneighbor]
    | _ => cases hkind
  | interfaceAdmin interface =>
    cases r' with
    | interfaceAdmin interface' => exact congrArg _ h
    | _ => cases hkind
  | interfaceOperational interface =>
    cases r' with
    | interfaceOperational interface' => exact congrArg _ h
    | _ => cases hkind
  | interfaceMss interface =>
    cases r' with
    | interfaceMss interface' => exact congrArg _ h
    | _ => cases hkind

/-- **Keys identify resources.** The two keys agree on any states of a device; and where no neighbor
of IPv6 is followed by a text with colons, keys are equal exactly if the states are of one
resource. -/
theorem snapshot_keys (device : ℕ) (s s' : DeviceStateSnapshot) :
    (stateKey device s = stateKey device s' ↔ s.key = s'.key) ∧
      ∀ r r', StateOf s r → StateOf s' r' → r.Legible → r'.Legible → (s.key = s'.key ↔ r = r') := by
  refine ⟨stateKey_eq_iff_key_eq, fun r r' h h' hr hr' => ?_⟩
  rw [key_inj, h.kind_eq, h'.kind_eq, h.object_eq, h'.object_eq]
  constructor
  · rintro ⟨hkind, htext⟩
    exact Resource.text_inj hr hr' hkind htext
  · rintro rfl
    exact ⟨rfl, rfl⟩

theorem stateOf_advertisement {n : Flow.IpAddr} {N : Network} {neighbor cidr : Text}
    (hn : addressText n = neighbor)
    (hN : N.text = cidr) (hwritten : N.Written) :
    StateOf (.bgpAdvertisement neighbor cidr true none) (.bgpAdvertisement n N) := by
  subst hn hN
  exact .bgpAdvertisement n hwritten true none

/-- The two families mix in one key, and the key is still told apart from another one. -/
theorem snapshot_keys_mixed :
    (DeviceStateSnapshot.bgpAdvertisement "2001:db8::1" "192.0.2.0/24" true none).key ≠
      (DeviceStateSnapshot.bgpAdvertisement "192.0.2.1" "2001:db8::/32" true none).key := by
  have h : StateOf (.bgpAdvertisement "2001:db8::1" "192.0.2.0/24" true none)
      (.bgpAdvertisement (.v6 (Ipv6.ofGroups [0x2001, 0xdb8, 0, 0, 0, 0, 0, 1]))
        (.v4 (Ipv4.ofOctets 192 0 2 0) 24)) :=
    stateOf_advertisement (by decide +kernel) (by decide +kernel)
      ⟨by simp [Network.Fits], by decide +kernel⟩
  have h' : StateOf (.bgpAdvertisement "192.0.2.1" "2001:db8::/32" true none)
      (.bgpAdvertisement (.v4 (Ipv4.ofOctets 192 0 2 1))
        (.v6 (Ipv6.ofGroups [0x2001, 0xdb8, 0, 0, 0, 0, 0, 0]) 32)) :=
    stateOf_advertisement (by decide +kernel) (by decide +kernel)
      ⟨by simp [Network.Fits], by decide +kernel⟩
  refine fun hkey => ?_
  have hsame := ((snapshot_keys 1 _ _).2 _ _ h h' (Or.inr rfl) (Or.inl rfl)).mp hkey
  exact absurd hsame (by decide)

/-- **Two advertisements to neighbors of IPv6 share their keys**, of different networks and to
different neighbors: the last group of one neighbor is the first group of the other network. -/
theorem keys_of_ipv6_collide :
    ∃ r r', StateOf (.bgpAdvertisement "2001:db8::1" "2:3::/32" true none) r ∧
      StateOf (.bgpAdvertisement "2001:db8::1:2" "3::/32" true none) r' ∧ r ≠ r' ∧
      stateKey 1 (.bgpAdvertisement "2001:db8::1" "2:3::/32" true none) =
        stateKey 1 (.bgpAdvertisement "2001:db8::1:2" "3::/32" true none) ∧
      (DeviceStateSnapshot.bgpAdvertisement "2001:db8::1" "2:3::/32" true none).key =
        (DeviceStateSnapshot.bgpAdvertisement "2001:db8::1:2" "3::/32" true none).key := by
  refine ⟨.bgpAdvertisement (.v6 (Ipv6.ofGroups [0x2001, 0xdb8, 0, 0, 0, 0, 0, 1]))
      (.v6 (Ipv6.ofGroups [2, 3, 0, 0, 0, 0, 0, 0]) 32),
    .bgpAdvertisement (.v6 (Ipv6.ofGroups [0x2001, 0xdb8, 0, 0, 0, 0, 1, 2]))
      (.v6 (Ipv6.ofGroups [3, 0, 0, 0, 0, 0, 0, 0]) 32),
    ?_, ?_, by decide, by decide +kernel, by decide +kernel⟩
  · exact stateOf_advertisement (by decide +kernel) (by decide +kernel)
      ⟨by simp [Network.Fits], by decide +kernel⟩
  · exact stateOf_advertisement (by decide +kernel) (by decide +kernel)
      ⟨by simp [Network.Fits], by decide +kernel⟩

end Resources

end Rerouter
