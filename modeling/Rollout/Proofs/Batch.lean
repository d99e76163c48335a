import Mathlib.Data.List.Nodup
import Rollout.Batch
import Rollout.Proofs.Inventory

/-!
No server is lost on the way from an inventory to batches. Shuffling and cutting keep the hosts of a
tag, whatever the random words are (`shuffle_perm`, `flatten_cut`), so that batches made for a
selection hold each host that lists a wanted tag exactly once in the groups of this tag, and no
other host (`makeBatches_of_select`). The words run through the tags in their order, every index
that is drawn from them is in range, and all groups but the last are full (`makeBatches_partition`).
Any orders of the hosts of all tags can come out together (`makeBatches_every_order`).
-/

namespace Rollout

/-! ### Shuffling -/

theorem swapIfInBounds_perm {α : Type} (items : Array α) (i j : Nat) :
    (items.swapIfInBounds i j).Perm items := by
  unfold Array.swapIfInBounds
  split
  · split
    · exact Array.swap_perm _ _
    · exact .refl _
  · exact .refl _

/-- Each swap keeps the items, whatever index is drawn. -/
theorem shuffleDown_perm {α : Type} : ∀ (i : Nat) (items : Array α) (ws : Words),
    (shuffleDown i items ws).1.Perm items
  | 0, _, _ => .refl _
  | i + 1, items, ws =>
    (shuffleDown_perm i _ (Words.draw (i + 2) (Nat.succ_pos _) ws).2).trans
      (swapIfInBounds_perm items _ _)

/-- The shuffled items are the items. -/
theorem shuffle_perm {α : Type} (items : List α) (ws : Words) : (shuffle items ws).1.Perm items :=
  (shuffleDown_perm (items.length - 1) items.toArray ws).toList

/-! ### Drawing -/

/-- An index below the bound is read off the first word whose product with the bound, modulo 2^32,
is less than the largest product of the bound with a power of two below 2^32. Behind the last word
all words are zero. -/
inductive Draws (bound : Nat) : Words → Nat → Words → Prop
  | taken {w : UInt32} {ws : Words}
      (h : w.toNat * bound % UInt32.size < bound <<< (31 - Nat.log2 bound)) :
      Draws bound (w :: ws) (w.toNat * bound / UInt32.size) ws
  | passed {w : UInt32} {ws rest : Words} {j : Nat}
      (h : bound <<< (31 - Nat.log2 bound) ≤ w.toNat * bound % UInt32.size)
      (next : Draws bound ws j rest) : Draws bound (w :: ws) j rest
  | zero : Draws bound [] 0 []

theorem le_zone_iff {bound : Nat} (h : 0 < bound) (p : Nat) :
    p ≤ Words.zone bound ↔ p < bound <<< (31 - Nat.log2 bound) := by
  have hpos : 0 < bound <<< (31 - Nat.log2 bound) := by
    rw [Nat.shiftLeft_eq]
    exact Nat.mul_pos h (Nat.two_pow_pos _)
  rw [Words.zone]
  exact Nat.le_sub_one_iff_lt hpos

theorem draws_draw {bound : Nat} (h : 0 < bound) (ws : Words) :
    Draws bound ws (Words.draw bound h ws).1 (Words.draw bound h ws).2 := by
  induction ws with
  | nil => exact .zero
  | cons w ws ih =>
    rw [Words.draw]
    split_ifs with hz
    · exact .taken ((le_zone_iff h _).mp hz)
    · exact .passed (Nat.le_of_not_lt (mt (le_zone_iff h _).mpr hz)) ih

/-- The item at the index, and then each one below it but the first, is swapped with one that stands
no further than itself. -/
inductive Shuffles {α : Type} : Nat → Array α → Words → Array α → Words → Prop
  | done {items : Array α} {ws : Words} : Shuffles 0 items ws items ws
  | swap {i j : Nat} {items shuffled : Array α} {ws ws' rest : Words}
      (draw : Draws (i + 2) ws j ws') (hi : i + 1 < items.size) (hj : j ≤ i + 1)
      (next : Shuffles i (items.swap (i + 1) j hi (Nat.lt_of_le_of_lt hj hi)) ws' shuffled rest) :
      Shuffles (i + 1) items ws shuffled rest

/-- Every swap of a shuffle is in range. -/
theorem shuffles_shuffleDown {α : Type} : ∀ (i : Nat) (items : Array α) (ws : Words),
    i ≤ items.size - 1 → Shuffles i items ws (shuffleDown i items ws).1 (shuffleDown i items ws).2
  | 0, _, _, _ => .done
  | i + 1, items, ws, h => by
    have hi : i + 1 < items.size := by omega
    have hj : (Words.draw (i + 2) (Nat.succ_pos _) ws).1.val < i + 2 := Fin.isLt _
    have hswap : items.swapIfInBounds (i + 1) (Words.draw (i + 2) (Nat.succ_pos _) ws).1 =
        items.swap (i + 1) (Words.draw (i + 2) (Nat.succ_pos _) ws).1 hi (by omega) := by
      rw [Array.swapIfInBounds, dif_pos hi, dif_pos (by omega)]
    refine .swap (draws_draw (Nat.succ_pos _) ws) hi (Nat.le_of_lt_succ hj) ?_
    dsimp only [shuffleDown]
    rw [hswap]
    refine shuffles_shuffleDown i _ _ ?_
    rw [Array.size_swap]
    omega

/-! ### Cutting -/

/-- Stretches of a positive size, one after another, are the items. -/
theorem flatten_chunks {α : Type} {size : Nat} (h : 0 < size) (items : List α) :
    (chunks size items).flatten = items := by
  fun_induction chunks size items with
  | case1 items hd => simp [hd.resolve_right (Nat.pos_iff_ne_zero.mp h)]
  | case2 items hd _ ih => rw [List.flatten_cons, ih, List.take_append_drop]

/-- The groups, one after another, are the hosts. -/
theorem flatten_cut (serial : Nat) (hosts : List Text) : (cut serial hosts).flatten = hosts := by
  unfold cut
  split
  · simp
  · next h => exact flatten_chunks (Nat.pos_of_ne_zero h) hosts

theorem length_chunks {α : Type} {size : Nat} (h : 0 < size) (items : List α) :
    (chunks size items).length = (items.length + size - 1) / size := by
  fun_induction chunks size items with
  | case1 items hd =>
    simp only [hd.resolve_right (Nat.pos_iff_ne_zero.mp h), List.length_nil]
    exact (Nat.div_eq_of_lt (by omega)).symm
  | case2 items hd _ ih =>
    have hpos : 0 < items.length := List.length_pos_iff.mpr (not_or.mp hd).1
    rw [List.length_cons, ih, List.length_drop]
    rcases Nat.le_total size items.length with hle | hle
    · rw [Nat.sub_add_cancel hle, ← Nat.add_div_right _ h]
      congr 1
      omega
    · have hone : (items.length + size - 1) / size = 1 :=
        Nat.div_eq_of_lt_le (by omega) (by omega)
      rw [hone, Nat.div_eq_of_lt (by omega)]

/-- All stretches but the last are of the size. -/
theorem length_of_mem_dropLast_chunks {α : Type} (size : Nat) (items : List α) :
    ∀ stretch ∈ (chunks size items).dropLast, stretch.length = size := by
  fun_induction chunks size items with
  | case1 => exact nofun
  | case2 items hd _ ih =>
    cases hrest : chunks size (items.drop size) with
    | nil => exact nofun
    | cons next stretches =>
      rw [hrest] at ih
      refine List.forall_mem_cons.mpr ⟨?_, ih⟩
      rw [List.length_take]
      refine Nat.min_eq_left (Nat.le_of_not_lt fun hlt => ?_)
      rw [List.drop_eq_nil_of_le (Nat.le_of_lt hlt), chunks, dif_pos (.inl rfl)] at hrest
      cases hrest

/-- No stretch is empty or longer than the size. -/
theorem length_of_mem_chunks {α : Type} (size : Nat) (items : List α) :
    ∀ stretch ∈ chunks size items, 1 ≤ stretch.length ∧ stretch.length ≤ size := by
  fun_induction chunks size items with
  | case1 => exact nofun
  | case2 items hd _ ih =>
    obtain ⟨hitems, hsize⟩ := not_or.mp hd
    have hpos : 0 < items.length := List.length_pos_iff.mpr hitems
    refine List.forall_mem_cons.mpr ⟨?_, ih⟩
    rw [List.length_take]
    omega

/-- The hosts are split among groups: one if `serial` is zero, and else as many groups of this size
as there are, with the hosts that remain in a last one. -/
structure Partition (serial : Nat) (hosts : List Text) (groups : List (List Text)) : Prop where
  perm : groups.flatten.Perm hosts
  single : serial = 0 → groups.length = 1
  length : 1 ≤ serial → groups.length = (hosts.length + serial - 1) / serial
  full : 1 ≤ serial → ∀ group ∈ groups.dropLast, group.length = serial
  last : 1 ≤ serial → ∀ group ∈ groups.getLast?, 1 ≤ group.length ∧ group.length ≤ serial

/-- Hosts in any order are cut into a partition. -/
theorem partition_cut {hosts order : List Text} (serial : Nat) (h : order.Perm hosts) :
    Partition serial hosts (cut serial order) where
  perm := by
    rw [flatten_cut]
    exact h
  single hs := by
    rw [cut, if_pos hs]
    rfl
  length hs := by
    rw [cut, if_neg (Nat.pos_iff_ne_zero.mp hs), length_chunks hs, h.length_eq]
  full hs := by
    rw [cut, if_neg (Nat.pos_iff_ne_zero.mp hs)]
    exact length_of_mem_dropLast_chunks serial _
  last hs group hg := by
    rw [cut, if_neg (Nat.pos_iff_ne_zero.mp hs)] at hg
    exact length_of_mem_chunks serial _ group (List.mem_of_getLast? hg)

/-! ### Batches -/

/-- Where there are tags and all have hosts, there are batches, and the groups of each tag hold its
hosts. -/
theorem makeBatches_eq_ok {tags : Dict (List Text)} (hne : tags.isEmpty = false)
    (hhosts : ∀ tag hosts, tags.get? tag = some hosts → hosts ≠ []) (serial : Nat) (ws : Words) :
    ∃ batches rest, makeBatches tags serial ws = .ok (batches, rest) ∧
      batches.keys = tags.keys ∧
      ∀ tag hosts, tags.get? tag = some hosts →
        ∃ groups, batches.get? tag = some groups ∧ groups.flatten.Perm hosts := by
  have hfind : (tags.entries.find? fun e => e.2.isEmpty) = none := by
    rw [List.find?_eq_none]
    rintro ⟨tag, hosts⟩ hm
    simpa using hhosts tag hosts (Dict.get?_eq_some_iff.mpr hm)
  refine ⟨_, _, by rw [makeBatches, hfind]; simp only [hne]; rfl, Dict.keys_mapState .., ?_⟩
  intro tag hosts h
  obtain ⟨ws', hg⟩ := Dict.get?_mapState
    (f := fun hosts ws => (cut serial (shuffle hosts ws).1, (shuffle hosts ws).2)) ws h
  refine ⟨_, hg, ?_⟩
  rw [flatten_cut]
  exact shuffle_perm hosts ws'

/-- Batches for an inventory in which some host lists a tag: the groups of a tag hold the hosts that
list it. -/
theorem makeBatches_hostsByTag {inv : Inventory} (h : ∃ host tag, inv.Lists host tag) (serial : Nat)
    (ws : Words) :
    ∃ batches rest, makeBatches inv.hostsByTag serial ws = .ok (batches, rest) ∧
      batches.keys = inv.hostsByTag.keys ∧
      ∀ tag, ((batches.get? tag).getD []).flatten.Perm (inv.carriers tag) := by
  obtain ⟨host, tag, hl⟩ := h
  have hne : inv.hostsByTag.isEmpty = false :=
    Dict.isEmpty_eq_false_of_mem_keys (Inventory.mem_keys_hostsByTag_iff.mpr ⟨host, hl⟩)
  obtain ⟨batches, rest, hb, hk, hg⟩ :=
    makeBatches_eq_ok hne (fun _ _ h => (Inventory.get?_hostsByTag_eq_some h).2) serial ws
  refine ⟨batches, rest, hb, hk, fun tag => ?_⟩
  cases hh : inv.hostsByTag.get? tag with
  | some hosts =>
    obtain ⟨groups, hgroups, hp⟩ := hg tag hosts hh
    rw [hgroups, ← (Inventory.get?_hostsByTag_eq_some hh).1]
    exact hp
  | none =>
    have hnone : batches.get? tag = none := by
      rw [Dict.get?_eq_none_iff, hk, ← Dict.get?_eq_none_iff, hh]
    rw [Inventory.get?_hostsByTag] at hh
    split at hh
    · next hc => rw [hnone, hc]; exact .refl _
    · cases hh

/-- Batches for a selection can always be made. Their tags are the wanted tags that a host lists, and
a host is in the groups of a tag once if the tag is wanted and the inventory lists it for the host,
and not at all otherwise. -/
theorem makeBatches_of_select {inv selected : Inventory} {s : TagSelection}
    (h : inv.select s = .ok selected) (serial : Nat) (ws : Words) :
    ∃ batches rest, makeBatches selected.hostsByTag serial ws = .ok (batches, rest) ∧
      (∀ tag, tag ∈ batches.keys ↔ s.contains tag = true ∧ ∃ host, inv.Lists host tag) ∧
      ∀ tag host,
        (s.contains tag = true ∧ inv.Lists host tag →
          ((batches.get? tag).getD []).flatten.count host = 1) ∧
        (¬ (s.contains tag = true ∧ inv.Lists host tag) →
          ((batches.get? tag).getD []).flatten.count host = 0) := by
  obtain ⟨batches, rest, hb, hk, hp⟩ :=
    makeBatches_hostsByTag (Inventory.exists_lists_of_select h) serial ws
  refine ⟨batches, rest, hb, fun tag => ?_, fun tag host => ?_⟩
  · rw [hk, Inventory.mem_keys_hostsByTag_iff]
    simp only [Inventory.lists_of_select h, exists_and_left]
  · rw [(hp tag).count_eq, ← Inventory.lists_of_select h, ← Inventory.mem_carriers_iff]
    exact ⟨List.count_eq_one_of_mem (selected.nodup_carriers tag), List.count_eq_zero_of_not_mem⟩

/-! ### An inventory with repeated and missing tags -/

/-- One host repeats a tag, and one has none. -/
def stock : Inventory :=
  ⟨.ofList [("a", ["web", "db", "web"]), ("b", []), ("c", ["db", "cache"]), ("d", ["web"])]⟩

/-- The host that repeats its tag is in the groups of the tag once, and in those of no other tag. -/
theorem makeBatches_of_select_stock :
    stock.select (.single "web") = .ok ⟨.ofList [("a", ["web", "web"]), ("d", ["web"])]⟩ ∧
      ∃ batches rest, makeBatches (Inventory.hostsByTag
          ⟨.ofList [("a", ["web", "web"]), ("d", ["web"])]⟩) 1 [4294967295, 7] =
            .ok (batches, rest) ∧
        ((batches.get? "web").getD []).flatten.count "a".toList = 1 ∧
        ((batches.get? "web").getD []).flatten.count "c".toList = 0 ∧
        ((batches.get? "db").getD []).flatten.count "a".toList = 0 := by
  have h : stock.select (.single "web") =
      .ok ⟨.ofList [("a", ["web", "web"]), ("d", ["web"])]⟩ := by
    decide +kernel
  obtain ⟨batches, rest, hb, -, hc⟩ := makeBatches_of_select h 1 [4294967295, 7]
  exact ⟨h, batches, rest, hb, (hc "web" "a").1 (by decide), (hc "web" "c").2 (by decide),
    (hc "db" "a").2 (by decide)⟩

/-! ### One tag after another -/

/-- The hosts of each tag are shuffled with the words that the tags before it have left. -/
inductive Batched (serial : Nat) :
    List (Text × List Text) → Words → List (Text × List (List Text)) → Words → Prop
  | nil {ws : Words} : Batched serial [] ws [] ws
  | cons {tag : Text} {hosts : List Text} {tags : List (Text × List Text)} {ws ws' rest : Words}
      {groups : List (List Text)} {batches : List (Text × List (List Text))}
      (shuffles : Shuffles (hosts.length - 1) hosts.toArray ws groups.flatten.toArray ws')
      (partition : Partition serial hosts groups) (next : Batched serial tags ws' batches rest) :
      Batched serial ((tag, hosts) :: tags) ws ((tag, groups) :: batches) rest

theorem batched_mapStateEntries (serial : Nat) : ∀ (tags : List (Text × List Text)) (ws : Words),
    let (batches, rest) := Dict.mapStateEntries
      (fun hosts ws => (cut serial (shuffle hosts ws).1, (shuffle hosts ws).2)) tags ws
    Batched serial tags ws batches rest
  | [], _ => .nil
  | (_, hosts) :: tags, ws => by
    have hcut := partition_cut serial (shuffle_perm hosts ws)
    refine .cons ?_ hcut (batched_mapStateEntries serial tags _)
    rw [flatten_cut]
    exact shuffles_shuffleDown (hosts.length - 1) hosts.toArray ws (Nat.le_refl _)

theorem Batched.exists_partition {serial : Nat} {tag : Text} {hosts : List Text} :
    ∀ {tags : List (Text × List Text)} {ws rest : Words} {batches : List (Text × List (List Text))},
      Batched serial tags ws batches rest → (tag, hosts) ∈ tags →
        ∃ groups, (tag, groups) ∈ batches ∧ Partition serial hosts groups
  | _, _, _, _, .cons _ partition next, h => by
    rcases List.mem_cons.mp h with h | h
    · cases h
      exact ⟨_, List.mem_cons_self .., partition⟩
    · obtain ⟨groups, hm, hp⟩ := next.exists_partition h
      exact ⟨groups, List.mem_cons_of_mem _ hm, hp⟩

/-- Of the tags without hosts, the one whose bytes are the smallest. -/
def FirstWithoutHosts (tags : Dict (List Text)) (tag : Text) : Prop :=
  tags.get? tag = some [] ∧
    ∀ other, tags.get? other = some [] → other ≠ tag → Utf8.encode tag < Utf8.encode other

theorem FirstWithoutHosts.eq {tags : Dict (List Text)} {tag other : Text}
    (h : FirstWithoutHosts tags tag) (h' : FirstWithoutHosts tags other) : tag = other := by
  by_contra hne
  exact List.lt_irrefl _ (List.lt_trans (h.2 other h'.1 (Ne.symm hne)) (h'.2 tag h.1 hne))

/-- The tags are searched in the order of their bytes. -/
theorem firstWithoutHosts_of_find? {tags : Dict (List Text)} {e : Text × List Text}
    (h : (tags.entries.find? fun e => e.2.isEmpty) = some e) : FirstWithoutHosts tags e.1 := by
  obtain ⟨hempty, before, after, hentries, hbefore⟩ := List.find?_eq_some_iff_append.mp h
  obtain ⟨tag, hosts⟩ := e
  cases List.isEmpty_iff.mp hempty
  have hsorted := tags.sorted
  rw [hentries] at hsorted
  refine ⟨Dict.get?_eq_some_iff.mpr (hentries ▸ List.mem_append_cons_self), fun other ho hne => ?_⟩
  have hm : (other, []) ∈ before ++ (tag, []) :: after := hentries ▸ Dict.get?_eq_some_iff.mp ho
  rcases List.mem_append.mp hm with hm | hm
  · exact absurd (hbefore _ hm) (by simp)
  · rcases List.mem_cons.mp hm with heq | hm
    · exact absurd (congrArg Prod.fst heq) hne
    · have hafter := List.pairwise_cons.mp (List.pairwise_append.mp hsorted).2.1
      exact Utf8.encode_lt_encode (hafter.1 _ hm)

theorem get?_ne_of_find?_eq_none {tags : Dict (List Text)}
    (h : (tags.entries.find? fun e => e.2.isEmpty) = none) (tag : Text) :
    tags.get? tag ≠ some [] := fun ht =>
  List.find?_eq_none.mp h _ (Dict.get?_eq_some_iff.mp ht) rfl

theorem makeBatches_eq_error_iff {tags : Dict (List Text)} {serial : Nat} {ws : Words}
    {e : BatchError} :
    makeBatches tags serial ws = .error e ↔
      tags.isEmpty = true ∧ e = .noTags ∨ ∃ tag, e = .noHosts tag ∧ FirstWithoutHosts tags tag := by
  rw [makeBatches]
  cases hfind : tags.entries.find? fun e => e.2.isEmpty with
  | some first =>
    have hfirst : FirstWithoutHosts tags first.1 := firstWithoutHosts_of_find? hfind
    constructor
    · intro h
      exact .inr ⟨first.1, (Except.error.inj h).symm, hfirst⟩
    · rintro (⟨he, -⟩ | ⟨tag, rfl, ht⟩)
      · simp [List.isEmpty_iff.mp he] at hfind
      · rw [ht.eq hfirst]
  | none =>
    have hnone : ¬ ∃ tag, e = .noHosts tag ∧ FirstWithoutHosts tags tag := fun ⟨tag, _, ht⟩ =>
      get?_ne_of_find?_eq_none hfind tag ht.1
    by_cases he : tags.isEmpty = true
    · simp [he, hnone, eq_comm]
    · simp [he, hnone]

/-- Batches cannot be made just if there are no tags or a tag has no hosts, the first of which is
named. Otherwise the hosts of every tag are split among its groups, with the random words running
through the tags in the order of their bytes. -/
theorem makeBatches_partition (tags : Dict (List Text)) (serial : Nat) (ws : Words) :
    (∀ e, makeBatches tags serial ws = .error e ↔
      tags.isEmpty = true ∧ e = .noTags ∨ ∃ tag, e = .noHosts tag ∧ FirstWithoutHosts tags tag) ∧
    ∀ batches rest, makeBatches tags serial ws = .ok (batches, rest) →
      batches.keys = tags.keys ∧
      (∀ tag hosts, tags.get? tag = some hosts →
        ∃ groups, batches.get? tag = some groups ∧ Partition serial hosts groups) ∧
      (tags.keys.Pairwise fun tag next => Utf8.encode tag < Utf8.encode next) ∧
      Batched serial tags.entries ws batches.entries rest := by
  refine ⟨fun e => makeBatches_eq_error_iff, fun batches rest h => ?_⟩
  rw [makeBatches] at h
  split at h
  · cases h
  · split_ifs at h
    cases h
    have hbatched := batched_mapStateEntries serial tags.entries ws
    refine ⟨Dict.keys_mapState .., fun tag hosts ht => ?_, Inventory.ascending_keys tags, hbatched⟩
    obtain ⟨groups, hm, hp⟩ := hbatched.exists_partition (Dict.get?_eq_some_iff.mp ht)
    exact ⟨groups, Dict.get?_eq_some_iff.mpr hm, hp⟩

/-! ### Every order -/

/-- The least multiple of the bound that reaches a multiple of the size is less than the bound past
it. -/
theorem exists_multiple {bound size j : Nat} (hb : bound ≤ size) (hj : j < bound) :
    ∃ n < size, n * bound / size = j ∧ n * bound % size < bound := by
  have hpos : 0 < bound := Nat.zero_lt_of_lt hj
  -- n is j * size / bound, rounded up
  obtain ⟨n, hn⟩ : ∃ n, n = (j * size + (bound - 1)) / bound := ⟨_, rfl⟩
  have hle : n * bound ≤ j * size + (bound - 1) := hn ▸ Nat.div_mul_le_self _ _
  have hlt : j * size + (bound - 1) < n * bound + bound := hn ▸ Nat.lt_div_mul_add hpos
  obtain ⟨d, hd⟩ : ∃ d, d + size * j = n * bound :=
    ⟨n * bound - j * size, by rw [Nat.mul_comm size]; omega⟩
  have hdb : d < bound := by
    rw [Nat.mul_comm] at hd
    omega
  obtain ⟨hdiv, hmod⟩ :=
    (Nat.div_mod_unique (Nat.lt_of_lt_of_le hpos hb)).mpr ⟨hd, Nat.lt_of_lt_of_le hdb hb⟩
  refine ⟨n, ?_, hdiv, hmod ▸ hdb⟩
  have hlast : (j + 1) * size ≤ bound * size := Nat.mul_le_mul_right size hj
  rw [Nat.add_mul, Nat.one_mul, Nat.mul_comm bound] at hlast
  exact Nat.lt_of_mul_lt_mul_right (a := bound) (by omega)

/-- Every index below the bound is drawn from some word, whatever words come after it. -/
theorem exists_draw {bound : Nat} (hpos : 0 < bound) (hb : bound ≤ UInt32.size) (j : Fin bound) :
    ∃ w : UInt32, ∀ ws, Words.draw bound hpos (w :: ws) = (j, ws) := by
  obtain ⟨n, hn, hdiv, hmod⟩ := exists_multiple hb j.isLt
  have hword : (UInt32.ofNat n).toNat = n := UInt32.toNat_ofNat_of_lt hn
  have hzone : n * bound % UInt32.size ≤ Words.zone bound := by
    refine (le_zone_iff hpos _).mpr (Nat.lt_of_lt_of_le hmod ?_)
    rw [Nat.shiftLeft_eq]
    exact Nat.le_mul_of_pos_right bound (Nat.two_pow_pos _)
  refine ⟨UInt32.ofNat n, fun ws => ?_⟩
  simp only [UInt32.size] at hzone hdiv
  simp only [Words.draw, hword]
  rw [if_pos hzone]
  simp only [hdiv]

/-- Swapping an item with the one at the end of a stretch. -/
theorem exists_swap_last {α : Type} (before after back : List α) (x : α) :
    ∃ front, front.Perm (before ++ after) ∧
      (before ++ x :: after ++ back).toArray.swapIfInBounds (before.length + after.length)
        before.length = (front ++ x :: back).toArray := by
  rcases List.eq_nil_or_concat after with rfl | ⟨after, y, rfl⟩
  · refine ⟨before, by simp, ?_⟩
    simp [Array.swapIfInBounds_def]
  · refine ⟨before ++ y :: after, ?_, ?_⟩
    · rw [List.concat_eq_append]
      exact (List.perm_append_singleton y after).symm.append_left before
    · simp [Array.swapIfInBounds_def, List.swap_toArray]

/-- Some word puts the item into the last place in front that an order of the items has there. -/
theorem exists_shuffleDown_succ {α : Type} {i : Nat} {front order : List α} {x : α}
    (back : List α) (hi : front.length = i + 2) (hsize : front.length ≤ UInt32.size)
    (hperm : (order ++ [x]).Perm front) :
    ∃ (w : UInt32) (left : List α), order.Perm left ∧
      ∀ ws, shuffleDown (i + 1) (front ++ back).toArray (w :: ws) =
        shuffleDown i (left ++ x :: back).toArray ws := by
  obtain ⟨before, after, rfl⟩ : ∃ before after, front = before ++ x :: after :=
    List.append_of_mem (hperm.subset (List.mem_append_right _ (List.mem_singleton_self x)))
  obtain ⟨left, hleft, hswap⟩ := exists_swap_last before after back x
  have horder : (x :: order).Perm (x :: (before ++ after)) :=
    ((List.perm_append_singleton x order).symm.trans hperm).trans List.perm_middle
  rw [List.length_append, List.length_cons] at hi hsize
  have hlast : before.length + after.length = i + 1 := by omega
  have hplace : before.length < i + 2 := by omega
  obtain ⟨w, hw⟩ := exists_draw (Nat.succ_pos _) (by omega) ⟨before.length, hplace⟩
  refine ⟨w, left, horder.cons_inv.trans hleft.symm, fun ws => ?_⟩
  rw [hlast] at hswap
  rw [shuffleDown, hw]
  dsimp only
  rw [hswap]

/-- Whatever order the items in front are to have, some words bring them into it, and the items
behind them stay where they are. -/
theorem exists_shuffleDown {α : Type} : ∀ (i : Nat) {front order : List α} (back : List α),
    front.length - 1 = i → front.length ≤ UInt32.size → order.Perm front →
      ∃ ws : Words, ∀ rest, shuffleDown i (front ++ back).toArray (ws ++ rest) =
        ((order ++ back).toArray, rest)
  | 0, front, order, back, hi, _, hperm => by
    have heq : order = front := by
      match front, hi with
      | [], _ => exact List.perm_nil.mp hperm
      | [x], _ => exact List.perm_singleton.mp hperm
    exact ⟨[], fun rest => by rw [heq]; rfl⟩
  | i + 1, front, order, back, hi, hsize, hperm => by
    have hlength := hperm.length_eq
    rcases List.eq_nil_or_concat order with rfl | ⟨order, x, rfl⟩
    · rw [List.length_nil] at hlength
      omega
    rw [List.concat_eq_append] at hperm hlength ⊢
    have hi : front.length = i + 2 := by omega
    -- the last of the order goes behind first, where no later swap reaches it
    obtain ⟨w, left, hleft, hw⟩ := exists_shuffleDown_succ back hi hsize hperm
    have hshorter := hleft.length_eq
    rw [List.length_append, List.length_singleton] at hlength
    obtain ⟨ws, hws⟩ := exists_shuffleDown i (x :: back) (by omega) (by omega) hleft
    refine ⟨w :: ws, fun rest => ?_⟩
    rw [List.cons_append, hw, hws, List.append_assoc, List.singleton_append]

/-- Some words shuffle the items into the order. -/
theorem exists_shuffle {α : Type} {items order : List α} (hperm : order.Perm items)
    (hsize : items.length ≤ UInt32.size) :
    ∃ ws : Words, ∀ rest, shuffle items (ws ++ rest) = (order, rest) := by
  obtain ⟨ws, hws⟩ := exists_shuffleDown (items.length - 1) [] rfl hsize hperm
  refine ⟨ws, fun rest => ?_⟩
  rw [List.append_nil, List.append_nil] at hws
  rw [shuffle, hws]

/-- Words for one value after another are words for all of them. -/
theorem exists_mapStateEntries {α β : Type} {f : α → Words → β × Words} {g : Text → β} :
    ∀ {es : List (Text × α)},
      (∀ e ∈ es, ∃ ws : Words, ∀ rest, f e.2 (ws ++ rest) = (g e.1, rest)) →
      ∃ ws : Words, ∀ rest,
        Dict.mapStateEntries f es (ws ++ rest) = (es.map fun e => (e.1, g e.1), rest)
  | [], _ => ⟨[], fun _ => rfl⟩
  | (k, v) :: es, h => by
    obtain ⟨⟨ws, hws⟩, hes⟩ := List.forall_mem_cons.mp h
    obtain ⟨more, hmore⟩ := exists_mapStateEntries hes
    refine ⟨ws ++ more, fun rest => ?_⟩
    dsimp only at hws
    rw [List.append_assoc, Dict.mapStateEntries, hws]
    dsimp only
    rw [hmore]
    rfl

/-- Whatever orders the hosts of the tags are chosen to have, all at once, there are random words
that bring the hosts of every tag into the order chosen for it, and no words after them are looked
at. -/
theorem makeBatches_every_order {tags : Dict (List Text)} (hne : tags.isEmpty = false)
    (hhosts : ∀ tag hosts, tags.get? tag = some hosts → hosts ≠ [] ∧ hosts.length < UInt32.size)
    (serial : Nat) {order : Text → List Text}
    (horder : ∀ tag hosts, tags.get? tag = some hosts → (order tag).Perm hosts) :
    ∃ (ws : Words) (batches : Dict (List (List Text))),
      (∀ rest, makeBatches tags serial (ws ++ rest) = .ok (batches, rest)) ∧
      batches.keys = tags.keys ∧
      ∀ tag hosts, tags.get? tag = some hosts → ∃ groups, batches.get? tag = some groups ∧
        groups.flatten = order tag ∧ Partition serial hosts groups := by
  have hfind : (tags.entries.find? fun e => e.2.isEmpty) = none := by
    rw [List.find?_eq_none]
    rintro ⟨tag, hosts⟩ hm
    simpa using (hhosts tag hosts (Dict.get?_eq_some_iff.mpr hm)).1
  have hshuffle : ∀ e ∈ tags.entries, ∃ ws : Words, ∀ rest,
      (cut serial (shuffle e.2 (ws ++ rest)).1, (shuffle e.2 (ws ++ rest)).2) =
        (cut serial (order e.1), rest) := by
    rintro ⟨tag, hosts⟩ hm
    have hget := Dict.get?_eq_some_iff.mpr hm
    have hsize := Nat.le_of_lt (hhosts tag hosts hget).2
    obtain ⟨ws, hws⟩ := exists_shuffle (horder tag hosts hget) hsize
    exact ⟨ws, fun rest => by rw [hws]⟩
  obtain ⟨ws, hws⟩ := exists_mapStateEntries
    (f := fun hosts ws => (cut serial (shuffle hosts ws).1, (shuffle hosts ws).2))
    (g := fun tag => cut serial (order tag)) hshuffle
  refine ⟨ws, tags.map fun tag _ => cut serial (order tag), fun rest => ?_, Dict.keys_map .., ?_⟩
  · rw [makeBatches, hfind]
    simp only [hne, Dict.mapState, hws]
    rfl
  · intro tag hosts h
    refine ⟨cut serial (order tag), by rw [Dict.get?_map, h]; rfl, flatten_cut serial _, ?_⟩
    exact partition_cut serial (horder tag hosts h)

/-- Hosts of two tags. -/
def farm : Dict (List Text) := .ofList [("db", ["d1", "d2"]), ("web", ["w1", "w2", "w3"])]

/-- An order of the hosts of each tag; that of the web servers is no turn of the list. -/
def farmOrder (tag : Text) : List Text :=
  if tag = "web".toList then ["w2", "w1", "w3"] else ["d2", "d1"]

/-- The two orders come out together. -/
theorem makeBatches_every_order_farm :
    farm.isEmpty = false ∧ (∀ e ∈ farm.entries, e.2 ≠ [] ∧ e.2.length < UInt32.size) ∧
      (∀ e ∈ farm.entries, (farmOrder e.1).Perm e.2) ∧
      ∃ (ws : Words) (batches : Dict (List (List Text))) (web db : List (List Text)),
        (∀ rest, makeBatches farm 2 (ws ++ rest) = .ok (batches, rest)) ∧
        batches.get? "web" = some web ∧ web.flatten = ["w2", "w1", "w3"] ∧
        Partition 2 ["w1", "w2", "w3"] web ∧
        batches.get? "db" = some db ∧ db.flatten = ["d2", "d1"] ∧ Partition 2 ["d1", "d2"] db := by
  have hne : farm.isEmpty = false := by decide +kernel
  have hhosts : ∀ e ∈ farm.entries, e.2 ≠ [] ∧ e.2.length < UInt32.size := by decide +kernel
  have horder : ∀ e ∈ farm.entries, (farmOrder e.1).Perm e.2 := by decide +kernel
  obtain ⟨ws, batches, hb, -, hg⟩ := makeBatches_every_order hne
    (fun tag hosts h => hhosts (tag, hosts) (Dict.get?_eq_some_iff.mp h)) 2
    (fun tag hosts h => horder (tag, hosts) (Dict.get?_eq_some_iff.mp h))
  obtain ⟨web, hweb, hwebOrder, hwebCut⟩ := hg "web" ["w1", "w2", "w3"] (by decide +kernel)
  obtain ⟨db, hdb, hdbOrder, hdbCut⟩ := hg "db" ["d1", "d2"] (by decide +kernel)
  exact ⟨hne, hhosts, horder, ws, batches, web, db, hb, hweb, hwebOrder, hwebCut, hdb, hdbOrder,
    hdbCut⟩

end Rollout
