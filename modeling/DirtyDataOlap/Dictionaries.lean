import Mathlib.Data.List.Nodup

/-!
# Dictionaries as lists of writes

A dictionary is the list of its items in the order they were written. **The last write of a key
wins**, so that a lookup reads the list from its end; where the keys are distinct a lookup is
membership.
-/
namespace DirtyDataOlap

open List

variable {κ β : Type} [DecidableEq κ]

/-- `dict(items).get(key)`: the last value written. -/
def getItem (items : List (κ × β)) (key : κ) : Option β :=
  (items.reverse.find? fun item => item.1 = key).map Prod.snd

/-- `items[key] = value`. -/
def setItem (items : List (κ × β)) (key : κ) (value : β) : List (κ × β) :=
  if key ∈ items.map Prod.fst then
    items.map fun item => if item.1 = key then (key, value) else item
  else items ++ [(key, value)]

/-- The items of `dict(items)`, each key where it was first written. -/
def dictOf (items : List (κ × β)) : List (κ × β) :=
  items.foldl (fun dict item => setItem dict item.1 item.2) []

/-- `dict(a) == dict(b)`. -/
def sameDict [DecidableEq β] (a b : List (κ × β)) : Bool :=
  (a ++ b).all fun item => getItem a item.1 = getItem b item.1

variable {key : κ} {items : List (κ × β)} {value : β} {γ : Type} {R : β → γ → Prop}
  {xs : List (κ × β)} {ys : List (κ × γ)} {item : κ × β}

theorem mem_of_getItem (h : getItem items key = some value) : (key, value) ∈ items := by
  obtain ⟨item, hitem, rfl⟩ := Option.map_eq_some_iff.1 h
  have hkey : item.1 = key := by simpa using find?_some hitem
  rw [← hkey]
  exact mem_reverse.1 (mem_of_find?_eq_some hitem)

@[simp] theorem getItem_eq_none_iff : getItem items key = none ↔ key ∉ items.map Prod.fst := by
  simp only [getItem, Option.map_eq_none_iff, find?_eq_none, mem_reverse,
    decide_eq_true_eq, mem_map, not_exists, not_and]

theorem getItem_isSome_iff : (getItem items key).isSome ↔ key ∈ items.map Prod.fst := by
  rw [← Option.ne_none_iff_isSome, ne_eq, getItem_eq_none_iff, not_not]

@[simp] theorem sameDict_self [DecidableEq β] (a : List (κ × β)) : sameDict a a = true := by
  simp [sameDict]

/-- Where the keys are distinct a lookup is membership. -/
theorem getItem_eq_some_iff (hn : (items.map Prod.fst).Nodup) :
    getItem items key = some value ↔ (key, value) ∈ items := by
  refine ⟨mem_of_getItem, fun hmem => ?_⟩
  have hsome : (getItem items key).isSome := getItem_isSome_iff.2 (mem_map.2 ⟨_, hmem, rfl⟩)
  obtain ⟨other, hother⟩ := Option.isSome_iff_exists.1 hsome
  have heq := inj_on_of_nodup_map hn (mem_of_getItem hother) hmem rfl
  rw [hother, (Prod.mk.inj heq).2]

theorem getItem_map_eq_some {α : Type} {xs : List α} {key : α → κ} {f : α → β} {k : κ} {v : β}
    (h : getItem (xs.map fun x => (key x, f x)) k = some v) : ∃ x ∈ xs, key x = k ∧ f x = v := by
  obtain ⟨x, hx, he⟩ := mem_map.1 (mem_of_getItem h)
  exact ⟨x, hx, congrArg Prod.fst he, congrArg Prod.snd he⟩

theorem getItem_map_of_mem {α : Type} {xs : List α} {key : α → κ} {f : α → β}
    (hn : (xs.map key).Nodup) {x : α} (hx : x ∈ xs) :
    getItem (xs.map fun x => (key x, f x)) (key x) = some (f x) := by
  rw [getItem_eq_some_iff]
  · exact mem_map.2 ⟨x, hx, rfl⟩
  · rw [map_map]
    exact hn

variable (h : Forall₂ (fun x y => x.1 = y.1 ∧ R x.2 y.2) xs ys)

include h in
theorem exists_getItem_of_forall₂ (hvalue : getItem xs key = some value) :
    ∃ other, getItem ys key = some other ∧ R value other := by
  obtain ⟨item, hitem, rfl⟩ := Option.map_eq_some_iff.1 hvalue
  unfold getItem
  replace h := List.forall₂_reverse_iff.2 h
  generalize xs.reverse = xs, ys.reverse = ys at h hitem ⊢
  revert hitem
  induction h with
  | nil => exact nofun
  | @cons x y xs ys hxy _ ih =>
    rw [List.find?_cons, List.find?_cons]
    by_cases hkey : x.1 = key
    · rw [decide_eq_true hkey, decide_eq_true (hxy.1 ▸ hkey)]
      intro hfound
      cases hfound
      exact ⟨y.2, rfl, hxy.2⟩
    · rw [decide_eq_false hkey, decide_eq_false (hxy.1 ▸ hkey)]
      exact ih

include h in
omit [DecidableEq κ] in
theorem keys_eq_of_forall₂ :
    xs.map Prod.fst = ys.map Prod.fst := by
  induction h with
  | nil => rfl
  | cons hxy _ ih => rw [map_cons, map_cons, hxy.1, ih]

include h in
theorem forall₂_setItem {other : γ} (hvalue : R value other) :
    Forall₂ (fun x y => x.1 = y.1 ∧ R x.2 y.2) (setItem xs key value) (setItem ys key other) := by
  by_cases hmem : key ∈ xs.map Prod.fst
  · rw [setItem, setItem, if_pos hmem, if_pos (keys_eq_of_forall₂ h ▸ hmem),
      forall₂_map_left_iff, forall₂_map_right_iff]
    refine Forall₂.imp ?_ h
    intro x y hxy
    by_cases hkey : x.1 = key
    · rw [if_pos hkey, if_pos (hxy.1 ▸ hkey)]
      exact ⟨rfl, hvalue⟩
    · rw [if_neg hkey, if_neg (hxy.1 ▸ hkey)]
      exact hxy
  · rw [setItem, setItem, if_neg hmem, if_neg (keys_eq_of_forall₂ h ▸ hmem)]
    exact rel_append h (.cons ⟨rfl, hvalue⟩ .nil)

theorem keys_setItem_of_mem (h : key ∈ items.map Prod.fst) :
    (setItem items key value).map Prod.fst = items.map Prod.fst := by
  rw [setItem, if_pos h, map_map]
  apply map_congr_left
  intro item _
  by_cases hk : item.1 = key <;> simp [hk]

theorem nodup_keys_setItem (h : (items.map Prod.fst).Nodup) :
    ((setItem items key value).map Prod.fst).Nodup := by
  by_cases hmem : key ∈ items.map Prod.fst
  · rw [keys_setItem_of_mem hmem]
    exact h
  · rw [setItem, if_neg hmem, map_append, map_singleton]
    refine nodup_append'.2 ⟨h, by simp, ?_⟩
    intro k hk hkey
    rw [mem_singleton] at hkey
    subst hkey
    exact hmem hk

theorem mem_setItem (h : item ∈ setItem items key value) : item = (key, value) ∨ item ∈ items := by
  unfold setItem at h
  split at h
  · obtain ⟨old, hold, rfl⟩ := mem_map.1 h
    by_cases hk : old.1 = key
    · simp [hk]
    · simp [hk, hold]
  · rcases mem_append.1 h with h | h
    · exact .inr h
    · exact .inl (mem_singleton.1 h)

theorem getItem_setItem {other : κ} : getItem (setItem items key value) other =
      if other = key then some value else getItem items other := by
  unfold setItem
  split
  · rename_i hmem
    have hkeys : ∀ item : κ × β, (if item.1 = key then (key, value) else item).1 = item.1 := by
      intro item
      split <;> simp_all
    have hfind : getItem (items.map fun item => if item.1 = key then (key, value) else item) other =
        (items.reverse.find? fun item => item.1 = other).map fun item =>
          (if item.1 = key then (key, value) else item).2 := by
      rw [getItem, ← map_reverse, find?_map, Option.map_map]
      simp only [Function.comp_def, hkeys]
    rw [hfind]
    by_cases ho : other = key
    · obtain ⟨held, hheld⟩ := Option.isSome_iff_exists.1 (getItem_isSome_iff.2 (ho ▸ hmem))
      obtain ⟨item, hitem, _⟩ := Option.map_eq_some_iff.1 hheld
      have hkey : item.1 = key := by simpa [ho] using find?_some hitem
      rw [hitem, if_pos ho, Option.map_some, if_pos hkey]
    · rw [if_neg ho, getItem]
      cases hitem : items.reverse.find? fun item => item.1 = other with
      | none => rfl
      | some item =>
        have hkey : item.1 = other := by simpa using find?_some hitem
        rw [Option.map_some, Option.map_some, if_neg (hkey ▸ ho)]
  · rename_i hmem
    by_cases ho : other = key
    · rw [if_pos ho, getItem, reverse_append]
      simp [ho]
    · rw [if_neg ho, getItem, reverse_append]
      simp [Ne.symm ho, getItem]

theorem setItem_of_mem (hn : ∀ item ∈ items, item.1 = key → item = (key, value))
    (h : (key, value) ∈ items) : setItem items key value = items := by
  rw [setItem, if_pos (mem_map.2 ⟨_, h, rfl⟩)]
  refine (map_congr_left fun item hitem => ?_).trans (map_id items)
  by_cases hk : item.1 = key
  · rw [if_pos hk, hn item hitem hk]
    rfl
  · rw [if_neg hk]
    rfl

theorem key_mem_dictOf : key ∈ (dictOf items).map Prod.fst ↔ key ∈ items.map Prod.fst := by
  suffices h : ∀ (rest written : List (κ × β)),
      key ∈ (rest.foldl (fun dict item => setItem dict item.1 item.2) written).map Prod.fst ↔
        key ∈ written.map Prod.fst ∨ key ∈ rest.map Prod.fst by
    rw [dictOf, h items []]
    simp
  intro rest
  induction rest with
  | nil => simp
  | cons next rest ih =>
    intro written
    rw [foldl_cons, ih, map_cons, mem_cons]
    have hset : key ∈ (setItem written next.1 next.2).map Prod.fst ↔
        key ∈ written.map Prod.fst ∨ key = next.1 := by
      by_cases hmem : next.1 ∈ written.map Prod.fst
      · rw [keys_setItem_of_mem hmem]
        constructor
        · exact .inl
        · rintro (h | rfl)
          · exact h
          · exact hmem
      · rw [setItem, if_neg hmem]
        simp
    rw [hset, or_assoc]

theorem mem_of_mem_dictOf (h : item ∈ dictOf items) : item ∈ items := by
  suffices hall : ∀ (rest written : List (κ × β)),
      item ∈ rest.foldl (fun dict item => setItem dict item.1 item.2) written →
        item ∈ written ∨ item ∈ rest from
    (hall items [] h).resolve_left not_mem_nil
  intro rest
  induction rest with
  | nil => exact fun written h => .inl h
  | cons next rest ih =>
    intro written hmem
    rcases ih _ hmem with hset | hrest
    · rcases mem_setItem hset with rfl | hold
      · exact .inr mem_cons_self
      · exact .inl hold
    · exact .inr (mem_cons_of_mem _ hrest)

/-- Where a key determines its value, a dictionary holds what was written to it. -/
theorem mem_dictOf (hn : ∀ a ∈ items, ∀ b ∈ items, a.1 = b.1 → a = b) :
    item ∈ dictOf items ↔ item ∈ items := by
  suffices h : ∀ (rest written : List (κ × β)),
      (∀ a ∈ written ++ rest, ∀ b ∈ written ++ rest, a.1 = b.1 → a = b) →
      (item ∈ rest.foldl (fun dict item => setItem dict item.1 item.2) written ↔
        item ∈ written ++ rest) from h items [] hn
  intro rest
  induction rest with
  | nil => intro written _; rw [append_nil]; rfl
  | cons next rest ih =>
    intro written hn
    rw [foldl_cons]
    have hnext : next ∈ written ++ next :: rest := by simp
    by_cases hk : next.1 ∈ written.map Prod.fst
    · -- the value is there already
      obtain ⟨old, hold, hkey⟩ := mem_map.1 hk
      have heq : old = next := hn old (mem_append_left _ hold) next hnext hkey
      rw [setItem_of_mem (fun item hitem hid => hn item (mem_append_left _ hitem) next hnext hid)
        (heq ▸ hold)]
      rw [ih written fun a ha b hb => hn a (by simp at ha ⊢; tauto) b (by simp at hb ⊢; tauto)]
      simp only [mem_append, mem_cons]
      constructor
      · tauto
      · rintro (h | rfl | h)
        · exact .inl h
        · exact .inl (heq ▸ hold)
        · exact .inr h
    · have happ : written ++ [(next.1, next.2)] ++ rest = written ++ next :: rest := by simp
      rw [setItem, if_neg hk, ih _ (by rw [happ]; exact hn), happ]

/-! ## Keys in upper case -/

/-- `text.upper()`, as far as words of ASCII letters can tell: the other letters with such an upper
case are the dotless i, the long and the sharp s and the Latin ligatures.  The code compares what
it returns with such words only. -/
def upper (text : String) : String :=
  String.join (text.toList.map fun c =>
    match c.toNat with
    | 0x131 => "I"
    | 0x17f => "S"
    | 0xdf => "SS"
    | 0xfb00 => "FF"
    | 0xfb01 => "FI"
    | 0xfb02 => "FL"
    | 0xfb03 => "FFI"
    | 0xfb04 => "FFL"
    | 0xfb05 => "ST"
    | 0xfb06 => "ST"
    | _ => String.singleton c.toUpper)

end DirtyDataOlap
