import ModbusTcp.Proofs.Proxy.Membership
import ModbusTcp.Proxy.Config

/-!
# Routing

A peer goes to the first target that serves it: one without a filter, or with a filter whose network the peer
belongs to.  So where a peer goes does not depend on the form of its address, and a network with fewer bits that
count keeps its peers.

* `ProxyTarget.Serves` — whom a target is for; `ProxyTarget.admits_iff`.
* `ProxyConfig.route_eq_some_iff`, `ProxyConfig.route_eq_none_iff` — the first target for a peer.
* `ProxyConfig.shortened` — settings in which fewer bits of one network count.
* **`ProxyConfig.routes_by_leading_bits`** — filters and routes in terms of addresses and their bits.
-/

namespace ModbusTcp

open IpAddress (mapped)

theorem IpAddress.canonical_mapped (bits : BitVec 32) : (IpAddress.v6 (mapped bits)).canonical = .v4 bits :=
  canonical_eq_v4_iff.mpr (.inr rfl)

/-- Both forms of an IPv4 address are in the same networks. -/
theorem SourceFilter.contains_mapped (filter : SourceFilter) (bits : BitVec 32) :
    filter.contains (.v6 (mapped bits)) = filter.contains (.v4 bits) := by
  rw [contains, contains, IpAddress.canonical_mapped]
  rfl

/-- The filter with at most so many bits that count. -/
def SourceFilter.shortened (kept : Nat) (filter : SourceFilter) : SourceFilter :=
  { filter with prefixLength := min kept filter.prefixLength }

theorem SourceFilter.Covers.shorten {filter : SourceFilter} {peer : IpAddress} (covers : filter.Covers peer)
    (kept : Nat) : (filter.shortened kept).Covers peer := by
  obtain ⟨network, prefixLength⟩ := filter
  cases network <;>
  · obtain ⟨bits, form, agree⟩ := covers
    exact ⟨bits, form, agree.shorten (Nat.min_le_right _ _)⟩

/-- A target is for a peer: it has no filter, or the peer belongs to the network of its filter. -/
def ProxyTarget.Serves (target : ProxyTarget) (peer : IpAddress) : Prop :=
  ∀ filter, target.source = some filter → filter.Covers peer

theorem ProxyTarget.admits_iff {target : ProxyTarget} {peer : IpAddress} : target.admits peer ↔ target.Serves peer := by
  simp only [admits, Serves, Option.all_eq_true, SourceFilter.contains_iff]

/-- The target whose filter has at most so many bits that count. -/
def ProxyTarget.shortened (kept : Nat) (target : ProxyTarget) : ProxyTarget :=
  { target with source := target.source.map (·.shortened kept) }

theorem ProxyTarget.Serves.shorten {target : ProxyTarget} {peer : IpAddress} (serves : target.Serves peer)
    (kept : Nat) : (target.shortened kept).Serves peer := by
  intro filter source
  obtain ⟨longer, before, rfl⟩ := Option.map_eq_some_iff.mp source
  exact (serves longer before).shorten kept

namespace ProxyConfig

variable {config : ProxyConfig} {peer : IpAddress}

/-- A peer goes to the target of least index that is for it. -/
theorem route_eq_some_iff {target : ProxyTarget} :
    config.route peer = some target ↔ ∃ index : Nat, config.targets[index]? = some target ∧ target.Serves peer ∧
      ∀ earlier < index, ∀ other : ProxyTarget, config.targets[earlier]? = some other → ¬other.Serves peer := by
  rw [route, List.find?_eq_some_iff_getElem]
  constructor
  · rintro ⟨admits, index, inside, found, before⟩
    refine ⟨index, ?_, ProxyTarget.admits_iff.mp admits, fun earlier less other there serves => ?_⟩
    · rw [List.getElem?_eq_getElem inside, found]
    · obtain ⟨bound, rfl⟩ := List.getElem?_eq_some_iff.mp there
      have refused := before earlier less
      rw [ProxyTarget.admits_iff.mpr serves] at refused
      cases refused
  · rintro ⟨index, there, serves, before⟩
    obtain ⟨inside, found⟩ := List.getElem?_eq_some_iff.mp there
    refine ⟨ProxyTarget.admits_iff.mpr serves, index, inside, found, fun earlier less => ?_⟩
    have refused := before earlier less _ (List.getElem?_eq_getElem (Nat.lt_trans less inside))
    rw [← ProxyTarget.admits_iff, Bool.not_eq_true] at refused
    rw [refused]
    rfl

/-- A peer goes nowhere if there is no target for it. -/
theorem route_eq_none_iff : config.route peer = none ↔ ∀ target ∈ config.targets, ¬target.Serves peer := by
  simp only [route, List.find?_eq_none, ProxyTarget.admits_iff]

theorem route_mapped (config : ProxyConfig) (bits : BitVec 32) :
    config.route (.v6 (mapped bits)) = config.route (.v4 bits) := by
  simp only [route, ProxyTarget.admits, SourceFilter.contains_mapped]

/-- The settings in which at most so many bits count of the network at an index. -/
def shortened (config : ProxyConfig) (index kept : Nat) : ProxyConfig :=
  { config with targets := config.targets.modify index (·.shortened kept) }

theorem isSome_route_shortened (index kept : Nat) (routed : (config.route peer).isSome) :
    ((config.shortened index kept).route peer).isSome := by
  rw [route, List.find?_isSome] at routed ⊢
  obtain ⟨target, member, admits⟩ := routed
  have serves := ProxyTarget.admits_iff.mp admits
  obtain ⟨place, there⟩ := List.mem_iff_getElem?.mp member
  have now : (config.shortened index kept).targets[place]? =
      some (if index = place then target.shortened kept else target) := by
    rw [shortened, List.getElem?_modify, there, Option.map_eq_map, Option.map_some]
  refine ⟨_, List.mem_of_getElem? now, ProxyTarget.admits_iff.mpr ?_⟩
  split
  · exact serves.shorten kept
  · exact serves

/-- **Routes follow from the leading bits.**  A filter contains a peer exactly if the peer belongs to its network.  A
peer goes to the target of least index which has no filter or whose network it belongs to, and nowhere if there is
none.  The two forms of an IPv4 address go the same way.  A peer that belongs to a network belongs to it also if
fewer bits count, and one that goes somewhere still does if fewer bits count of one of the networks.  All this needs
neither that the numbers of bits have been checked nor that the networks are not IPv6 forms of IPv4 addresses. -/
theorem routes_by_leading_bits (config : ProxyConfig) :
    (∀ (filter : SourceFilter) (peer : IpAddress), filter.contains peer ↔ filter.Covers peer) ∧
    (∀ peer target, config.route peer = some target ↔
      ∃ index : Nat, config.targets[index]? = some target ∧ target.Serves peer ∧
        ∀ earlier < index, ∀ other : ProxyTarget, config.targets[earlier]? = some other → ¬other.Serves peer) ∧
    (∀ peer, config.route peer = none ↔ ∀ target ∈ config.targets, ¬target.Serves peer) ∧
    (∀ bits, config.route (.v6 (mapped bits)) = config.route (.v4 bits)) ∧
    (∀ (filter : SourceFilter) (kept : Nat) (peer : IpAddress), kept ≤ filter.prefixLength → filter.contains peer →
      SourceFilter.contains { filter with prefixLength := kept } peer) ∧
    ∀ index kept peer, (config.route peer).isSome → ((config.shortened index kept).route peer).isSome := by
  refine ⟨fun _ _ => SourceFilter.contains_iff, fun _ _ => route_eq_some_iff, fun _ => route_eq_none_iff,
    route_mapped config, fun filter kept peer less inside => ?_, fun index kept _ => isSome_route_shortened index kept⟩
  have covers := (SourceFilter.contains_iff.mp inside).shorten kept
  rw [SourceFilter.shortened, Nat.min_eq_left less] at covers
  exact SourceFilter.contains_iff.mpr covers

/-- A peer whose address is the IPv6 form of one in an IPv4 network goes to the target for this network, not to the one
for all of IPv6, and still goes somewhere if no bit of the IPv4 network counts. -/
theorem routes_by_leading_bits_of_families :
    let inside : ProxyTarget := { source := some ⟨.v4 (IpAddress.ofOctets 10 0 0 0), 8⟩ }
    let others : ProxyTarget := { source := some ⟨.v6 0, 0⟩ }
    let config : ProxyConfig := { targets := [others, inside] }
    let peer : IpAddress := .v6 (mapped (IpAddress.ofOctets 10 1 2 3))
    config.route peer = some inside ∧ ((config.shortened 1 0).route peer).isSome := by
  intro inside others config peer
  obtain ⟨_, _, _, forms, _, shorter⟩ := routes_by_leading_bits config
  have routed : config.route (.v4 (IpAddress.ofOctets 10 1 2 3)) = some inside := by decide
  have same : config.route peer = some inside := (forms _).trans routed
  exact ⟨same, shorter 1 0 peer (same ▸ rfl)⟩

end ProxyConfig

end ModbusTcp
