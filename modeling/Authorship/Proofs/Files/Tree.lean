import Authorship.Files.Tree

namespace Authorship

theorem lookup_filter_of_ne {α β : Type} [BEq α] [LawfulBEq α] {key other : α}
    (entries : List (α × β)) (h : other ≠ key) :
    (entries.filter (·.1 != key)).lookup other = entries.lookup other := by
  induction entries with
  | nil => rfl
  | cons entry entries ih =>
    by_cases hk : entry.1 = key
    · have hne : (other == entry.1) = false := by rwa [hk, beq_eq_false_iff_ne]
      rw [List.filter_cons_of_neg (by simpa using hk), ih, List.lookup_cons, hne]
    · rw [List.filter_cons_of_pos (by simpa using hk), List.lookup_cons, List.lookup_cons, ih]

namespace Files.Tree

variable {tree after : Tree} {workDir start place other parts : List String} {path : Path}
  {node : Node}

theorem node?_put (h : place ≠ []) : (tree.put place node).node? place = some node := by
  have hempty : place.isEmpty = false := by simpa using h
  rw [node?, hempty, put, List.lookup_cons_self]
  rfl

theorem node?_put_of_ne (h : other ≠ place) :
    (tree.put place node).node? other = tree.node? other := by
  have hne : (other == place) = false := beq_eq_false_iff_ne.mpr h
  rw [node?, node?, put, List.lookup_cons, hne]
  exact congrArg (ite _ _ ·) (lookup_filter_of_ne tree.entries h)

/-- A walk passes directories only, so it goes as before when something is put elsewhere. -/
theorem walk_put (h : tree.walk start parts = .ok other)
    (hn : tree.node? place ≠ some .directory) :
    (tree.put place node).walk start parts = .ok other := by
  induction parts generalizing start with
  | nil => exact h
  | cons part rest ih =>
    rw [walk] at h ⊢
    cases hd : tree.node? start with
    | none =>
      rw [hd] at h
      cases h
    | some found =>
      rw [hd] at h
      cases found with
      | directory =>
        have hne : start ≠ place := by
          rintro rfl
          exact hn hd
        rw [node?_put_of_ne hne, hd]
        dsimp only at h ⊢
        split at h
        · rename_i hup
          rw [if_pos hup]
          exact ih h
        · rename_i hup
          rw [if_neg hup]
          split at h
          · cases h
          · rename_i hshort
            rw [if_neg hshort]
            exact ih h
      | file content => cases h
      | image width height => cases h

theorem place_put (h : tree.place workDir path = .ok other)
    (hn : tree.node? place ≠ some .directory) :
    (tree.put place node).place workDir path = .ok other := by
  unfold Tree.place at h ⊢
  split at h
  · cases h
  · rename_i hshort
    rw [if_neg hshort]
    exact walk_put h hn

/-- What has to be at a path for a file to be written there. -/
structure Takes (tree : Tree) (workDir : List String) (path : Path) (place : List String) :
    Prop where
  noNul : path.hasNul = false
  place_eq : tree.place workDir path = .ok place
  noDirectory : tree.node? place ≠ some .directory
  inDirectory : tree.node? place.dropLast = some .directory

theorem write_eq_ok_iff :
    tree.write workDir path node = .ok after ↔
      ∃ place, tree.Takes workDir path place ∧ after = tree.put place node := by
  constructor
  · intro h
    unfold write at h
    split at h
    · cases h
    rename_i hnul
    split at h
    · cases h
    rename_i place hplace
    split at h
    · cases h
    rename_i hnode
    split at h
    · rename_i hparent
      cases h
      exact ⟨place, ⟨by simpa using hnul, hplace, hnode, hparent⟩, rfl⟩
    · cases h
    · cases h
  · rintro ⟨place, ⟨hnul, hplace, hnode, hparent⟩, rfl⟩
    unfold write
    rw [if_neg (by simp [hnul]), hplace]
    dsimp only
    split
    · contradiction
    · rw [hparent]

namespace Takes

theorem ne_nil (h : tree.Takes workDir path place) : place ≠ [] := by
  rintro rfl
  exact h.noDirectory rfl

theorem put (h : tree.Takes workDir path place) (hn : node ≠ .directory) :
    (tree.put place node).Takes workDir path place where
  noNul := h.noNul
  place_eq := place_put h.place_eq h.noDirectory
  noDirectory := by
    rw [node?_put h.ne_nil]
    exact fun he => hn (Option.some.inj he)
  inDirectory := by
    have hne : place.dropLast ≠ place := by
      intro he
      have hparent := h.inDirectory
      rw [he] at hparent
      exact h.noDirectory hparent
    rw [node?_put_of_ne hne]
    exact h.inDirectory

theorem read_put (h : tree.Takes workDir path place) (content : List UInt8) :
    (tree.put place (.file content)).read workDir path = .ok content := by
  have hlook : (tree.put place (.file content)).look workDir path = .ok (.file content) := by
    unfold look
    rw [place_put h.place_eq h.noDirectory]
    simp only [Bind.bind, Except.bind, node?_put h.ne_nil]
  rw [read, if_neg (by simp [h.noNul]), hlook]

end Takes

theorem isFile_of_read {content : List UInt8} (h : tree.read workDir path = .ok content) :
    tree.isFile workDir path = .ok true := by
  unfold read at h
  unfold isFile find
  split at h
  · cases h
  · rename_i hnul
    rw [if_neg hnul]
    split at h
    · rename_i hlook
      rw [hlook]
      rfl
    · rename_i hlook
      rw [hlook]
      rfl
    · cases h
    · cases h

/-- A file that is written is read back. -/
theorem read_of_write {content : List UInt8}
    (h : tree.write workDir path (.file content) = .ok after) :
    after.read workDir path = .ok content := by
  obtain ⟨place, htakes, rfl⟩ := write_eq_ok_iff.mp h
  exact htakes.read_put content

theorem exists_write_of_write (h : tree.write workDir path node = .ok after)
    (hn : node ≠ .directory) (next : Node) :
    ∃ final, after.write workDir path next = .ok final := by
  obtain ⟨place, htakes, rfl⟩ := write_eq_ok_iff.mp h
  exact ⟨_, write_eq_ok_iff.mpr ⟨place, htakes.put hn, rfl⟩⟩

end Files.Tree

end Authorship
