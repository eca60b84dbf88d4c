import FormLogic.Proofs.Path.Overwriting

/-!
# Reading and writing at joined paths

A joined path leads from the place of the first path to where the second one leads from there,
whatever dots the two begin or end with.  It does not matter in which order three paths are joined.
-/

namespace FormLogic.Path

open Schema

theorem join_assoc (p q r : String) : join (join p q) r = join p (join q r) := by
  -- An empty path drops out; else there is one dot between each path and the next.
  by_cases hp : p = ""
  · rw [hp, join_empty_left, join_empty_left]
  by_cases hq : q = ""
  · rw [hq, join_empty_right, join_empty_left]
  by_cases hr : r = ""
  · rw [hr, join_empty_right, join_empty_right]
  rw [join_of_ne_empty (join_ne_empty hp q) hr, join_of_ne_empty hp (join_ne_empty hq r),
    join_of_ne_empty hp hq, join_of_ne_empty hq hr]
  simp only [String.append_assoc]

theorem get_join (data : Json) (p q : String) :
    get data (join p q) = (get data p).bind fun found => get found q := by
  rw [get, segments_join, readAt_append]
  rfl

/-- What is written below a place is written into what stands there; into `null` if nothing does. -/
theorem writeAt_append (place rest : List String) (value data : Json) :
    writeAt (place ++ rest) value data =
      writeAt place (writeAt rest value (Json.orNull (valueAt place (some data)))) data := by
  induction place generalizing data with
  | nil => rfl
  | cons key place ih =>
      rw [List.cons_append, writeAt, writeAt, ih, valueAt_cons, valueUnder_some]
      cases hold : Dictionary.lookup key (entriesOf data) with
      | some old => rfl
      | none =>
          -- What is missing under the key counts as `null`, and so does what is missing in `null`.
          have hnull : Json.orNull (valueAt place (some .null)) =
              Json.orNull (valueAt place none) := by
            by_cases hplace : place = []
            · rw [hplace]
              rfl
            · rw [valueAt_null hplace, valueAt_none]
          rw [Option.getD_none, hnull]

theorem set_join (data value : Json) (p q : String) :
    Path.set data (join p q) value =
      Path.set data p (Path.set (Json.orNull (valueAt (segments p) (some data))) q value) := by
  rw [Path.set, segments_join, writeAt_append]
  rfl

/-- At a joined path there is read what the second path leads to from where the first one leads, and
nothing if that leads nowhere; and a value is written at the second path in what stands, below
objects, at the first.  Three paths that are joined in either order read and write the same. -/
theorem joined_paths_compose (data value : Json) (p q r : String) :
    get data (join p q) = ((get data p).bind fun found => get found q) ∧
      Path.set data (join p q) value =
        Path.set data p (Path.set (Json.orNull (valueAt (segments p) (some data))) q value) ∧
      get data (join (join p q) r) = get data (join p (join q r)) ∧
      Path.set data (join (join p q) r) value = Path.set data (join p (join q r)) value := by
  refine ⟨get_join data p q, set_join data value p q, ?_, ?_⟩
  · rw [join_assoc]
  · rw [join_assoc]

/-- Dots at the ends of paths that are joined do no harm. -/
example : get Sheet.data (join "rows." "..0") = some (.ofNat 5) := rfl

end FormLogic.Path
