import Mathlib.Data.List.AList
import Mathlib.Data.List.Induction

/-! Key-value buckets, batches of writes and removals, and the replacement of
the objects one owner keeps among the objects of others. Contents are compared
by lookup, so nothing depends on the order in which a bucket stores its keys. -/
namespace Storage

/-- A finite map from keys to bodies. No key occurs twice. -/
abbrev Bucket (Key Body : Type) := AList fun _ : Key => Body

namespace Bucket

variable {Key Body : Type} [DecidableEq Key]

def writeAll (bucket : Bucket Key Body) (writes : List (Key × Body)) : Bucket Key Body :=
  writes.foldl (fun bucket write => bucket.insert write.1 write.2) bucket

def removeAll (bucket : Bucket Key Body) (keys : List Key) : Bucket Key Body :=
  keys.foldl (fun bucket key => bucket.erase key) bucket

@[simp] theorem writeAll_nil (bucket : Bucket Key Body) : bucket.writeAll [] = bucket := rfl

@[simp] theorem removeAll_nil (bucket : Bucket Key Body) : bucket.removeAll [] = bucket := rfl

theorem writeAll_snoc (bucket : Bucket Key Body) (writes : List (Key × Body)) (write : Key × Body) :
    bucket.writeAll (writes ++ [write]) = (bucket.writeAll writes).insert write.1 write.2 := by
  simp [writeAll]

theorem removeAll_snoc (bucket : Bucket Key Body) (keys : List Key) (key : Key) :
    bucket.removeAll (keys ++ [key]) = (bucket.removeAll keys).erase key := by
  simp [removeAll]

theorem lookup_insert_eq_ite (bucket : Bucket Key Body) (key other : Key) (body : Body) :
    (bucket.insert key body).lookup other =
      if other = key then some body else bucket.lookup other := by
  by_cases h : other = key
  · subst h
    simp
  · rw [if_neg h, AList.lookup_insert_ne h]

theorem lookup_erase_eq_ite (bucket : Bucket Key Body) (key other : Key) :
    (bucket.erase key).lookup other = if other = key then none else bucket.lookup other := by
  by_cases h : other = key
  · subst h
    simp
  · rw [if_neg h, AList.lookup_erase_ne h]

theorem lookup_removeAll (bucket : Bucket Key Body) (keys : List Key) (key : Key) :
    (bucket.removeAll keys).lookup key = if key ∈ keys then none else bucket.lookup key := by
  induction keys using List.reverseRecOn with
  | nil => simp
  | append_singleton keys last ih =>
      rw [removeAll_snoc, lookup_erase_eq_ite, ih]
      by_cases h : key = last
      · simp [h]
      · simp [h]

/-- A key outside the batch keeps its body. -/
theorem lookup_writeAll_of_not_mem (bucket : Bucket Key Body) (writes : List (Key × Body))
    (key : Key) (h : key ∉ writes.map Prod.fst) :
    (bucket.writeAll writes).lookup key = bucket.lookup key := by
  induction writes using List.reverseRecOn with
  | nil => rfl
  | append_singleton writes last ih =>
      simp only [List.map_append, List.map_cons, List.map_nil, List.mem_append,
        List.mem_singleton, not_or] at h
      rw [writeAll_snoc, AList.lookup_insert_ne h.2, ih h.1]

/-- When no key is written twice, every write of the batch is there after it. -/
theorem lookup_writeAll_of_mem (bucket : Bucket Key Body) (writes : List (Key × Body))
    (hNodup : (writes.map Prod.fst).Nodup) (key : Key) (body : Body) (h : (key, body) ∈ writes) :
    (bucket.writeAll writes).lookup key = some body := by
  induction writes using List.reverseRecOn with
  | nil => cases h
  | append_singleton writes last ih =>
      rw [List.map_append, List.nodup_append] at hNodup
      obtain ⟨hInit, _, hDisjoint⟩ := hNodup
      rw [writeAll_snoc, lookup_insert_eq_ite]
      rcases List.mem_append.mp h with hm | hm
      · have hne : key ≠ last.1 :=
          hDisjoint key (List.mem_map.mpr ⟨_, hm, rfl⟩) last.1 (by simp)
        rw [if_neg hne, ih hInit hm]
      · have he : (key, body) = last := List.mem_singleton.mp hm
        rw [← he, if_pos rfl]

end Bucket

section Select

variable {Key Body : Type} {bucket : Bucket Key Body} {chosen : Key → Bool}

/-- The objects under the chosen keys. -/
def Bucket.select (bucket : Bucket Key Body) (chosen : Key → Bool) : List (Key × Body) :=
  (bucket.entries.filter fun entry => chosen entry.1).map fun entry => (entry.1, entry.2)

theorem Bucket.select_keys_nodup (bucket : Bucket Key Body) (chosen : Key → Bool) :
    ((bucket.select chosen).map Prod.fst).Nodup := by
  have hKeys : (bucket.entries.map Sigma.fst).Nodup := bucket.nodupKeys
  simp only [Bucket.select, List.map_map]
  exact (List.filter_sublist.map _).nodup hKeys

theorem Bucket.mem_select [DecidableEq Key] {object : Key × Body} : object ∈ bucket.select chosen ↔
    chosen object.1 = true ∧ bucket.lookup object.1 = some object.2 := by
  simp only [Bucket.select, List.mem_map, List.mem_filter]
  constructor
  · rintro ⟨entry, ⟨hEntry, hChosen⟩, rfl⟩
    exact ⟨hChosen, AList.mem_lookup_iff.mpr hEntry⟩
  · rintro ⟨hChosen, hLookup⟩
    exact ⟨⟨object.1, object.2⟩, ⟨AList.mem_lookup_iff.mp hLookup, hChosen⟩, rfl⟩

end Select

/-- Collecting keys into a set leaves each of them once. -/
theorem nodup_eraseDups {Key : Type} [BEq Key] [LawfulBEq Key] (keys : List Key) :
    keys.eraseDups.Nodup := by
  induction h : keys.length using Nat.strongRecOn generalizing keys with
  | ind n ih =>
      cases keys with
      | nil => simp
      | cons key rest =>
          have hShorter : (rest.filter (fun k => !k == key)).length < n := by
            rw [← h, List.length_cons]
            exact Nat.lt_succ_of_le (List.length_filter_le _ _)
          rw [List.eraseDups_cons, List.nodup_cons, List.mem_eraseDups]
          exact ⟨by simp, ih _ hShorter _ rfl⟩

/-- What a batch of writes with distinct keys holds at a key. -/
def written {Key Body : Type} [DecidableEq Key] (writes : List (Key × Body)) (key : Key) :
    Option Body :=
  (writes.find? (·.1 = key)).map Prod.snd

section Written

variable {Key Body : Type} [DecidableEq Key]

theorem written_eq_none (writes : List (Key × Body)) (key : Key) :
    written writes key = none ↔ key ∉ writes.map Prod.fst := by
  simp only [written, Option.map_eq_none_iff, List.find?_eq_none, decide_eq_true_eq, List.mem_map,
    not_exists, not_and]

theorem mem_of_written {writes : List (Key × Body)} {key : Key} {body : Body}
    (h : written writes key = some body) : (key, body) ∈ writes := by
  simp only [written, Option.map_eq_some_iff] at h
  obtain ⟨write, hFind, rfl⟩ := h
  have hKey : write.1 = key := by simpa using List.find?_some hFind
  rw [← hKey]
  exact List.mem_of_find?_eq_some hFind

theorem written_of_mem {writes : List (Key × Body)} (hNodup : (writes.map Prod.fst).Nodup)
    {key : Key} {body : Body} (h : (key, body) ∈ writes) : written writes key = some body := by
  induction writes with
  | nil => cases h
  | cons first rest ih =>
      rw [List.map_cons, List.nodup_cons] at hNodup
      rcases List.mem_cons.mp h with he | hm
      · rw [← he]
        simp [written]
      · have hne : first.1 ≠ key := by
          rintro rfl
          exact hNodup.1 (List.mem_map.mpr ⟨_, hm, rfl⟩)
        have hRest := ih hNodup.2 hm
        simpa [written, List.find?_cons, hne] using hRest

theorem Bucket.lookup_writeAll (bucket : Bucket Key Body) (writes : List (Key × Body))
    (hNodup : (writes.map Prod.fst).Nodup) (key : Key) :
    (bucket.writeAll writes).lookup key = (written writes key).or (bucket.lookup key) := by
  cases h : written writes key with
  | none =>
      rw [bucket.lookup_writeAll_of_not_mem writes key ((written_eq_none writes key).mp h)]
      rfl
  | some body =>
      rw [bucket.lookup_writeAll_of_mem writes hNodup key body (mem_of_written h)]
      rfl

end Written

/-- The objects under the keys of some part, in the order in which they are stored. -/
def Bucket.part {Key Body : Type} (bucket : Bucket Key Body) (keys : Key → Bool) :
    List (Sigma fun _ : Key => Body) :=
  bucket.entries.filter fun entry => keys entry.1

section Part

variable {Key Body : Type} {keys : Key → Bool} {bucket other : Bucket Key Body}

/-- A listing of keys of the part. -/
theorem Bucket.keys_filter_of_part (h : bucket.part keys = other.part keys) {listed : Key → Bool}
    (hListed : ∀ key, listed key = true → keys key = true) :
    bucket.keys.filter listed = other.keys.filter listed := by
  have hPart (b : Bucket Key Body) : b.keys.filter listed =
      ((b.part keys).map Sigma.fst).filter listed := by
    rw [Bucket.part, AList.keys, List.keys, List.filter_map, List.filter_map, List.filter_filter]
    congr 1
    refine List.filter_congr fun entry _ => ?_
    cases hKey : listed entry.1 with
    | false => simp [hKey]
    | true => simp [hKey, hListed _ hKey]
  rw [hPart, hPart, h]

variable [DecidableEq Key]

theorem dlookup_filter (entries : List (Sigma fun _ : Key => Body)) {key : Key}
    (hKey : keys key = true) :
    (entries.filter fun entry => keys entry.1).dlookup key = entries.dlookup key := by
  induction entries with
  | nil => rfl
  | cons entry rest ih =>
      by_cases hSame : key = entry.1
      · subst hSame
        rcases entry with ⟨first, body⟩
        simp [hKey]
      · rw [List.dlookup_cons_ne _ _ hSame, List.filter_cons]
        split_ifs
        · rw [List.dlookup_cons_ne _ _ hSame, ih]
        · exact ih

theorem kerase_filter (entries : List (Sigma fun _ : Key => Body)) (key : Key) :
    ((entries.kerase key).filter fun entry => keys entry.1) =
      (entries.filter fun entry => keys entry.1).kerase key := by
  induction entries with
  | nil => rfl
  | cons entry rest ih =>
      by_cases hSame : key = entry.1
      · rw [List.kerase_cons_eq hSame, List.filter_cons]
        split_ifs with hKeys
        · rw [List.kerase_cons_eq hSame]
        · rw [List.kerase_of_notMem_keys]
          intro hm
          obtain ⟨other, hOther, hKey⟩ := List.mem_map.mp hm
          rw [← hSame, ← hKey] at hKeys
          exact hKeys (List.mem_filter.mp hOther).2
      · rw [List.kerase_cons_ne hSame, List.filter_cons, List.filter_cons]
        split_ifs
        · rw [List.kerase_cons_ne hSame, ih]
        · exact ih

/-- The part of a bucket less an object is the part less that object. -/
theorem Bucket.part_erase_eq (key : Key) :
    Bucket.part (bucket.erase key) keys = (bucket.part keys).kerase key :=
  kerase_filter bucket.entries key

/-- An object under another key is no object of the part. -/
theorem Bucket.part_erase_of_not {key : Key} (hKey : keys key = false) :
    Bucket.part (bucket.erase key) keys = bucket.part keys := by
  have hAbsent : key ∉ (bucket.entries.filter fun entry => keys entry.1).keys := by
    intro hm
    obtain ⟨entry, hEntry, rfl⟩ := List.mem_map.mp hm
    rw [(List.mem_filter.mp hEntry).2] at hKey
    cases hKey
  rw [Bucket.part_erase_eq]
  exact List.kerase_of_notMem_keys hAbsent

theorem Bucket.part_insert_of_not {key : Key} (hKey : keys key = false) (body : Body) :
    Bucket.part (bucket.insert key body) keys = bucket.part keys := by
  have hErase : (bucket.entries.kerase key).filter (fun entry => keys entry.1) = bucket.part keys :=
    bucket.part_erase_of_not hKey
  simp only [Bucket.part, AList.entries_insert, List.filter_cons, hKey] at hErase ⊢
  simpa using hErase

theorem Bucket.lookup_of_part (h : bucket.part keys = other.part keys) {key : Key}
    (hKey : keys key = true) : bucket.lookup key = other.lookup key := by
  rw [AList.lookup, AList.lookup, ← dlookup_filter bucket.entries hKey,
    ← dlookup_filter other.entries hKey]
  exact congrArg (List.dlookup key) h

theorem Bucket.part_erase (h : bucket.part keys = other.part keys) (key : Key) :
    Bucket.part (bucket.erase key) keys = Bucket.part (other.erase key) keys := by
  rw [Bucket.part_erase_eq, Bucket.part_erase_eq, h]

theorem Bucket.part_insert (h : bucket.part keys = other.part keys) (key : Key) (body : Body) :
    Bucket.part (bucket.insert key body) keys = Bucket.part (other.insert key body) keys := by
  have hErase : (bucket.entries.kerase key).filter (fun entry => keys entry.1) =
      (other.entries.kerase key).filter (fun entry => keys entry.1) :=
    bucket.part_erase h key
  simp only [Bucket.part, AList.entries_insert, List.filter_cons, hErase]

end Part

end Storage
