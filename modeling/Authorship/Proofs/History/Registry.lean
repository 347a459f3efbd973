import Authorship.History.Basic
import Mathlib.Data.List.Induction
import Mathlib.Data.List.Nodup
import Mathlib.Data.List.Perm.Subperm

namespace Authorship

class LawfulEntity (α : Type) [Entity α] : Prop where
  key_create (key : String) : Entity.key (Entity.create key : α) = key

instance : LawfulEntity Author := ⟨fun _ => rfl⟩

instance : LawfulEntity File := ⟨fun _ => rfl⟩

instance : LawfulEntity Commit := ⟨fun _ => rfl⟩

theorem eraseDups_concat {α : Type} [BEq α] [LawfulBEq α] (list : List α) (last : α)
    [Decidable (last ∈ list)] :
    (list ++ [last]).eraseDups =
      if last ∈ list then list.eraseDups else list.eraseDups ++ [last] := by
  rw [List.eraseDups_append]
  by_cases h : last ∈ list <;> simp [List.removeAll, h, List.eraseDups_cons]

theorem nodup_eraseDups {α : Type} [BEq α] [LawfulBEq α] (list : List α) :
    list.eraseDups.Nodup := by
  classical
  induction list using List.reverseRecOn with
  | nil => exact List.nodup_nil
  | append_singleton list last ih =>
    rw [eraseDups_concat]
    split
    · exact ih
    · rename_i h
      refine List.nodup_append.mpr ⟨ih, by simp, ?_⟩
      intro a ha b hb he
      have hb : b = last := by simpa using hb
      rw [he, hb, List.mem_eraseDups] at ha
      exact h ha

theorem eraseDups_map_eraseDups {α β : Type} [BEq α] [LawfulBEq α] [BEq β] [LawfulBEq β]
    (f : α → β) (list : List α) : (list.eraseDups.map f).eraseDups = (list.map f).eraseDups := by
  classical
  induction list using List.reverseRecOn with
  | nil => rfl
  | append_singleton list last ih =>
    have hmem : f last ∈ list.eraseDups.map f ↔ f last ∈ list.map f := by
      simp only [List.mem_map, List.mem_eraseDups]
    rw [eraseDups_concat, List.map_append, List.map_singleton, eraseDups_concat (list.map f)]
    by_cases h : last ∈ list
    · rw [if_pos h, if_pos (List.mem_map_of_mem h), ih]
    · rw [if_neg h, List.map_append, List.map_singleton, eraseDups_concat, ih]
      simp only [hmem]

theorem eraseDups_of_nodup {α : Type} [BEq α] [LawfulBEq α] {list : List α} (h : list.Nodup) :
    list.eraseDups = list := by
  induction list with
  | nil => rfl
  | cons a list ih =>
    obtain ⟨ha, hlist⟩ := List.nodup_cons.mp h
    have hothers : list.filter (fun b => !b == a) = list := by
      rw [List.filter_eq_self]
      intro b hb
      rw [Bool.not_eq_true', beq_eq_false_iff_ne]
      rintro rfl
      exact ha hb
    rw [List.eraseDups_cons, hothers, ih hlist]

theorem subperm_eraseDups {α : Type} [BEq α] [LawfulBEq α] (list : List α) :
    list.eraseDups.Subperm list :=
  (nodup_eraseDups list).subperm fun _ hm => List.mem_eraseDups.mp hm

theorem length_eraseDups_eq_iff {α : Type} [BEq α] [LawfulBEq α] {list : List α} :
    list.eraseDups.length = list.length ↔ list.Nodup := by
  constructor
  · intro h
    exact ((subperm_eraseDups list).perm_of_length_le (Nat.le_of_eq h.symm)).nodup_iff.mp (nodup_eraseDups list)
  · intro h
    rw [eraseDups_of_nodup h]

namespace Registry

variable {α : Type}

theorem mem_items_iff {registry : Registry α} {entity : α} :
    entity ∈ registry.items ↔ ∃ handle, registry.get? handle = some entity := by
  rw [List.mem_iff_getElem?]
  constructor
  · rintro ⟨i, hi⟩
    exact ⟨⟨i⟩, hi⟩
  · rintro ⟨handle, h⟩
    exact ⟨handle.place, h⟩

theorem get?_modify_self (registry : Registry α) (handle : Handle α) (change : α → α) :
    (registry.modify handle change).get? handle = (registry.get? handle).map change :=
  List.getElem?_modify_eq change handle.place registry.items

theorem get?_modify_of_ne (registry : Registry α) {handle other : Handle α} (change : α → α)
    (h : handle ≠ other) : (registry.modify handle change).get? other = registry.get? other := by
  apply List.getElem?_modify_ne change registry.items
  intro he
  cases handle
  cases other
  exact h (congrArg Handle.mk he)

theorem get?_modify_cases {registry : Registry α} {handle other : Handle α} {change : α → α}
    {entity : α} (h : (registry.modify handle change).get? other = some entity) :
    (other = handle ∧ ∃ entry, registry.get? handle = some entry ∧ entity = change entry) ∨
      (other ≠ handle ∧ registry.get? other = some entity) := by
  by_cases he : other = handle
  · subst other
    rw [get?_modify_self] at h
    obtain ⟨entry, hg, rfl⟩ := Option.map_eq_some_iff.mp h
    exact .inl ⟨rfl, entry, hg, rfl⟩
  · rw [get?_modify_of_ne _ _ (Ne.symm he)] at h
    exact .inr ⟨he, h⟩

theorem modify_modify (registry : Registry α) (handle : Handle α) (first second : α → α) :
    (registry.modify handle first).modify handle second =
      registry.modify handle (second ∘ first) := by
  simp only [modify, List.modify_modify_eq]

variable [Entity α]

theorem mem_keys_of_get? {registry : Registry α} {handle : Handle α} {entity : α}
    (h : registry.get? handle = some entity) : Entity.key entity ∈ registry.keys :=
  List.mem_map_of_mem (List.mem_of_getElem? h)

theorem eq_of_key_eq {registry : Registry α} {a b : Handle α} {x y : α}
    (hn : registry.keys.Nodup) (ha : registry.get? a = some x) (hb : registry.get? b = some y)
    (h : Entity.key x = Entity.key y) : a = b := by
  have hi : registry.keys[a.place]? = some (Entity.key x) := by
    rw [keys, List.getElem?_map, show registry.items[a.place]? = some x from ha]
    rfl
  have hj : registry.keys[b.place]? = some (Entity.key x) := by
    rw [keys, List.getElem?_map, show registry.items[b.place]? = some y from hb, h]
    rfl
  have hlt : a.place < registry.keys.length := by
    rw [List.getElem?_eq_some_iff] at hi
    exact hi.1
  have he : a.place = b.place := (List.getElem?_inj hlt hn).mp (hi.trans hj.symm)
  cases a
  cases b
  exact congrArg Handle.mk he

theorem get?_of_find? {registry : Registry α} {key : String} {handle : Handle α}
    (h : registry.find? key = some handle) :
    ∃ entity, registry.get? handle = some entity ∧ Entity.key entity = key := by
  obtain ⟨i, hi, rfl⟩ := Option.map_eq_some_iff.mp h
  obtain ⟨hlt, he, -⟩ := List.findIdx?_eq_some_iff_getElem.mp hi
  exact ⟨registry.items[i], List.getElem?_eq_getElem hlt, beq_iff_eq.mp he⟩

theorem find?_eq_none_iff {registry : Registry α} {key : String} :
    registry.find? key = none ↔ key ∉ registry.keys := by
  simp [find?, keys, List.findIdx?_eq_none_iff]

theorem request_cases (registry : Registry α) (key : String) :
    (∃ handle entity, registry.request key = (handle, registry) ∧
      registry.get? handle = some entity ∧ Entity.key entity = key) ∨
    (key ∉ registry.keys ∧
      registry.request key = (⟨registry.size⟩, ⟨registry.items ++ [Entity.create key]⟩)) := by
  cases h : registry.find? key with
  | some handle =>
    obtain ⟨entity, hg, hk⟩ := get?_of_find? h
    exact .inl ⟨handle, entity, by simp only [request, h], hg, hk⟩
  | none => exact .inr ⟨find?_eq_none_iff.mp h, by simp only [request, h]⟩

theorem get?_request_of_get? {registry : Registry α} {handle : Handle α} {entity : α}
    (key : String) (h : registry.get? handle = some entity) :
    (registry.request key).2.get? handle = some entity := by
  rcases registry.request_cases key with ⟨_, _, hr, _, _⟩ | ⟨_, hr⟩
  · rw [hr]
    exact h
  · rw [hr]
    have hlt := (List.getElem?_eq_some_iff.mp h).1
    exact (List.getElem?_append_left hlt).trans h

theorem get?_request_cases {registry : Registry α} {handle : Handle α} {entity : α}
    {key : String} (h : (registry.request key).2.get? handle = some entity) :
    registry.get? handle = some entity ∨
      (key ∉ registry.keys ∧ handle = (registry.request key).1 ∧ entity = Entity.create key) := by
  rcases registry.request_cases key with ⟨_, _, hr, _, _⟩ | ⟨hk, hr⟩
  · rw [hr] at h
    exact .inl h
  · rw [hr] at h ⊢
    have hi : (registry.items ++ [Entity.create key])[handle.place]? = some entity := h
    rw [List.getElem?_append] at hi
    split at hi
    · exact .inl hi
    · rename_i hge
      rw [List.getElem?_singleton] at hi
      split at hi
      · rename_i hz
        have he : handle.place = registry.items.length := by omega
        cases handle
        exact .inr ⟨hk, congrArg Handle.mk he, (Option.some.inj hi).symm⟩
      · cases hi

variable [LawfulEntity α]

theorem get?_request (registry : Registry α) (key : String) :
    ∃ entity, (registry.request key).2.get? (registry.request key).1 = some entity ∧
      Entity.key entity = key := by
  rcases registry.request_cases key with ⟨handle, entity, hr, hg, hk⟩ | ⟨_, hr⟩
  · rw [hr]
    exact ⟨entity, hg, hk⟩
  · rw [hr]
    exact ⟨Entity.create key, List.getElem?_concat_length, LawfulEntity.key_create key⟩

theorem keys_request (registry : Registry α) (key : String) :
    (registry.request key).2.keys =
      if key ∈ registry.keys then registry.keys else registry.keys ++ [key] := by
  rcases registry.request_cases key with ⟨handle, entity, hr, hg, rfl⟩ | ⟨hk, hr⟩
  · rw [hr, if_pos (mem_keys_of_get? hg)]
  · rw [hr, if_neg hk]
    simp only [keys, List.map_append, List.map_cons, List.map_nil, LawfulEntity.key_create]

theorem keys_request_eraseDups {registry : Registry α} {requested : List String} (key : String)
    (h : registry.keys = requested.eraseDups) :
    (registry.request key).2.keys = (requested ++ [key]).eraseDups := by
  rw [keys_request, List.eraseDups_append, ← h]
  have hm : key ∈ registry.keys ↔ key ∈ requested := by rw [h, List.mem_eraseDups]
  by_cases hk : key ∈ requested
  · simp [hm, hk, List.removeAll]
  · simp [hm, hk, List.removeAll, List.eraseDups_cons]

theorem nodup_keys_request {registry : Registry α} (key : String) (h : registry.keys.Nodup) :
    (registry.request key).2.keys.Nodup := by
  rw [keys_request]
  split
  · exact h
  · rename_i hk
    refine List.nodup_append.mpr ⟨h, List.nodup_singleton key, ?_⟩
    intro a ha b hb he
    rw [List.mem_singleton] at hb
    rw [he, hb] at ha
    exact hk ha

omit [LawfulEntity α] in
theorem keys_modify (registry : Registry α) (handle : Handle α) {change : α → α}
    (h : ∀ entity, Entity.key (change entity) = Entity.key entity) :
    (registry.modify handle change).keys = registry.keys := by
  apply List.ext_getElem?
  intro i
  simp only [keys, modify, List.getElem?_map, List.getElem?_modify]
  cases registry.items[i]? with
  | none => rfl
  | some entity =>
    simp only [Option.map_eq_map, Option.map_some]
    split
    · rw [h]
    · rfl

end Registry

end Authorship
