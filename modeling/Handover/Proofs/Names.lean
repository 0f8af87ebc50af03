import Handover.Names

/-!
# Names determine numbers

Nothing keeps the dash out of the name of a cluster, so `crdb-1` with the number 1 and `crdb`
with the number 11 end alike. What saves the convention is that a numeral holds no dash: behind
the last dash of the name of a node, or of anything named after it, stands its number and
nothing else.
-/

namespace Handover

/-! ## Ends of texts -/

theorem Text.endsWith_iff {s tail : String} :
    Text.endsWith s tail = true ↔ tail.toList <:+ s.toList := by
  rw [Text.endsWith, List.isSuffixOf_iff_suffix]

theorem Text.startsWith_iff {s start : String} :
    Text.startsWith s start = true ↔ start.toList <+: s.toList := by
  rw [Text.startsWith, List.isPrefixOf_iff_prefix]

theorem Text.strip?_eq_some_iff {start s rest : String} :
    Text.strip? start s = some rest ↔ s = start ++ rest := by
  rw [Text.strip?, Option.map_eq_some_iff, ← String.toList_inj, String.toList_append]
  constructor
  · rintro ⟨cs, hcs, rfl⟩
    rw [String.toList_ofList]
    exact Text.stripChars_eq_some_iff.mp hcs
  · intro h
    exact ⟨rest.toList, Text.stripChars_eq_some_iff.mpr h, String.ofList_toList⟩

/-- A text ends in another one when something stands before it. -/
theorem Text.endsWith_iff_append {s tail : String} :
    Text.endsWith s tail = true ↔ ∃ before, s = before ++ tail := by
  rw [Text.endsWith_iff]
  constructor
  · rintro ⟨before, h⟩
    exact ⟨String.ofList before, String.toList_injective (by simp [h])⟩
  · rintro ⟨before, rfl⟩
    exact ⟨before.toList, by simp⟩

/-- What stands behind the last of a character at the end of a text is determined. -/
theorem Text.behind_last_unique {c : Char} {cs xs ys : List Char} (hx : c ∉ xs) (hy : c ∉ ys)
    (h₁ : c :: xs <:+ cs) (h₂ : c :: ys <:+ cs) : xs = ys := by
  -- the shorter end cannot lie within the longer one, which holds no second `c`
  rcases List.suffix_or_suffix_of_suffix h₁ h₂ with h | h
  · rcases List.suffix_cons_iff.mp h with heq | h
    · exact List.tail_eq_of_cons_eq heq
    · exact absurd (h.subset List.mem_cons_self) hy
  · rcases List.suffix_cons_iff.mp h with heq | h
    · exact (List.tail_eq_of_cons_eq heq).symm
    · exact absurd (h.subset List.mem_cons_self) hx

namespace Names

/-! ## Numerals -/

theorem dash_notMem_numeral (n : Nat) : '-' ∉ Nat.toDigits 10 n := fun h => by
  have := Nat.isDigit_of_mem_toDigits (by omega) (by omega) h
  cases this

theorem numeral_injective {m n : Nat} (h : Nat.toDigits 10 m = Nat.toDigits 10 n) : m = n := by
  rw [← Nat.ofDigitChars_ten_toDigits (n := m), h, Nat.ofDigitChars_ten_toDigits]

/-! ## Names of nodes -/

theorem toList_around_dash (front back : String) :
    String.toList s!"{front}-{back}" = front.toList ++ '-' :: back.toList := by
  simp [toString]

theorem toList_nodeName (cluster : String) (i : Nat) :
    (nodeName cluster i).toList = cluster.toList ++ '-' :: Nat.toDigits 10 i := by
  simp [nodeName, toString]

theorem nodeName_injective {cluster : String} {i j : Nat}
    (h : nodeName cluster i = nodeName cluster j) : i = j := by
  have hlist := congrArg String.toList h
  rw [toList_nodeName, toList_nodeName] at hlist
  exact numeral_injective (List.cons.inj (List.append_cancel_left hlist)).2

/-- What is named after a node of a cluster ends in a dash and the number of that node. -/
theorem numeral_suffix_of_endsWith {s cluster : String} {i : Nat}
    (h : Text.endsWith s s!"-{nodeName cluster i}" = true) :
    '-' :: Nat.toDigits 10 i <:+ s.toList := by
  refine List.IsSuffix.trans ?_ (Text.endsWith_iff.mp h)
  refine ⟨'-' :: cluster.toList, ?_⟩
  simp [toList_nodeName, toString]

/-- Nothing is named after two nodes of one cluster. -/
theorem eq_of_endsWith_nodeName {s cluster : String} {i j : Nat}
    (hi : Text.endsWith s s!"-{nodeName cluster i}" = true)
    (hj : Text.endsWith s s!"-{nodeName cluster j}" = true) : i = j :=
  numeral_injective (Text.behind_last_unique (dash_notMem_numeral i) (dash_notMem_numeral j)
    (numeral_suffix_of_endsWith hi) (numeral_suffix_of_endsWith hj))

/-- A claim with the name that both schemes derive is named after its pod. -/
theorem endsWith_claimName (volume pod : String) :
    Text.endsWith (claimName volume pod) s!"-{pod}" = true := by
  rw [Text.endsWith_iff_append]
  exact ⟨volume, by simp [claimName, toString, String.append_assoc]⟩

end Names

end Handover
