import LintBridge.Proofs.Config
import LintBridge.Proofs.Path

/-! Values seen from the home directory. Objects keep their keys and what is nested in them; of what
keys lead to, only texts with a leading tilde and slash are changed. From an absolute home directory
the changed texts start with a slash, so nothing is left to expand, and expanding again changes
nothing. Each value is expanded by itself, so members may be overlaid before or after. -/

namespace LintBridge

/-- The value that keys lead to, one after another, through objects. -/
def Json.reached? : Json → List String → Option Json
  | v, [] => some v
  | v, key :: keys => (v.get? key).bind (reached? · keys)

namespace Config

/-- What becomes of a value that keys lead to: an object keeps its keys in their order, a text with
a leading tilde and slash is the path of what follows seen from the home directory, and any other
value stays. -/
inductive Becomes (home : String) : Json → Json → Prop where
  | object (before after : Members) (keys : after.keys = before.keys) :
      Becomes home (.obj before) (.obj after)
  | tilde (rest : String) : Becomes home (.str ("~/" ++ rest))
      (.str ((Path.ofString home).join (Path.ofString rest)).toString)
  | other (v : Json) (hobject : v.members? = none) (htilde : ∀ rest, v ≠ .str ("~/" ++ rest)) :
      Becomes home v v

variable {home s : String}

/-! ### Texts -/

theorem toList_tilde (rest : String) : ("~/" ++ rest).toList = '~' :: '/' :: rest.toList := by
  rw [String.toList_append]
  rfl

theorem expandText_tilde (home rest : String) :
    expandText home ("~/" ++ rest) = ((Path.ofString home).join (Path.ofString rest)).toString := by
  simp only [expandText, toList_tilde, String.ofList_toList]

theorem expandText_of_ne_tilde (h : ∀ rest, s ≠ "~/" ++ rest) : expandText home s = s := by
  unfold expandText
  split
  · rename_i cs hs
    refine absurd (String.toList_inj.mp ?_) (h (String.ofList cs))
    rw [hs, toList_tilde, String.toList_ofList]
  · rfl

/-! ### Values that keys lead to -/

theorem get?_expand (home : String) (v : Json) (key : String) :
    (expand home v).get? key = (v.get? key).map (expand home) := by
  cases v with
  | obj ms => exact get?_expandMembers home ms key
  | _ => rfl

theorem reached?_expand (home : String) (v : Json) (keys : List String) :
    (expand home v).reached? keys = (v.reached? keys).map (expand home) := by
  induction keys generalizing v with
  | nil => rfl
  | cons key keys ih =>
    rw [Json.reached?, Json.reached?, get?_expand]
    cases v.get? key with
    | none => rfl
    | some w => exact ih w

theorem becomes_expand (home : String) (v : Json) : Becomes home v (expand home v) := by
  cases v with
  | str s =>
    by_cases htilde : ∃ rest, s = "~/" ++ rest
    · obtain ⟨rest, rfl⟩ := htilde
      rw [expand, expandText_tilde]
      exact .tilde rest
    · rw [not_exists] at htilde
      rw [expand, expandText_of_ne_tilde htilde]
      exact .other _ rfl fun rest hs => htilde rest (Json.str.inj hs)
  | obj ms => exact .object _ _ (keys_expandMembers home ms)
  | _ => exact .other _ rfl fun _ h => by cases h

/-! ### Once and again -/

/-- From an absolute home directory no text with a leading tilde comes out. -/
theorem expandText_ne_tilde (habsolute : (Path.ofString home).isAbsolute = true) (s rest : String) :
    expandText home s ≠ "~/" ++ rest := by
  intro hexpanded
  by_cases htilde : ∃ rest, s = "~/" ++ rest
  · obtain ⟨rest', rfl⟩ := htilde
    have hhead := ((Path.isRooted_ofString habsolute).join rest').head?_toString
    rw [← expandText_tilde, hexpanded, toList_tilde] at hhead
    cases hhead
  · rw [not_exists] at htilde
    rw [expandText_of_ne_tilde htilde] at hexpanded
    exact htilde rest hexpanded

theorem expand_ne_tilde (habsolute : (Path.ofString home).isAbsolute = true) (v : Json)
    (rest : String) : expand home v ≠ .str ("~/" ++ rest) := by
  cases v with
  | str s => exact fun h => expandText_ne_tilde habsolute s rest (Json.str.inj h)
  | _ => exact fun h => by cases h

mutual

theorem expand_expand (habsolute : (Path.ofString home).isAbsolute = true) :
    ∀ v : Json, expand home (expand home v) = expand home v
  | .str s => by
    rw [expand, expand, expandText_of_ne_tilde (expandText_ne_tilde habsolute s)]
  | .obj ms => by rw [expand, expand, expandMembers_expandMembers habsolute ms]
  | .null | .bool _ | .int _ | .float _ | .arr _ => rfl

theorem expandMembers_expandMembers (habsolute : (Path.ofString home).isAbsolute = true) :
    ∀ ms : Members, expandMembers home (expandMembers home ms) = expandMembers home ms
  | [] => rfl
  | (key, v) :: rest => by
    rw [expandMembers, expandMembers, expand_expand habsolute v,
      expandMembers_expandMembers habsolute rest]

end

/-! ### Layers -/

theorem expandMembers_put (home : String) (ms : Members) (key : String) (v : Json) :
    expandMembers home (ms.put key v) =
      Members.put (expandMembers home ms) key (expand home v) := by
  induction ms with
  | nil => rfl
  | cons p ms ih =>
    rw [Members.put, expandMembers, Members.put]
    split
    · rw [expandMembers]
    · rw [expandMembers, ih]

theorem expandMembers_overlay (home : String) (ms top : Members) :
    expandMembers home (ms.overlay top) =
      Members.overlay (expandMembers home ms) (expandMembers home top) := by
  induction top generalizing ms with
  | nil => rfl
  | cons p top ih =>
    have hfirst : ms.overlay (p :: top) = (ms.put p.1 p.2).overlay top := rfl
    rw [hfirst, ih, expandMembers_put]
    rfl

/-- Seen from an absolute home directory, the same keys as before lead to objects with the same
keys, to paths in place of texts with a leading tilde and slash, and else to the same values. No text
with a leading tilde and slash is left to be reached, and expanding again changes nothing. Members
overlaid with others are expanded as their layers are. -/
theorem expansion_is_settled (home : String) (ms top : Members)
    (habsolute : (Path.ofString home).isAbsolute = true) :
    (∀ keys, Option.Rel (Becomes home) (Json.reached? (.obj ms) keys)
      (Json.reached? (.obj (expandMembers home ms)) keys)) ∧
    (∀ keys rest, Json.reached? (.obj (expandMembers home ms)) keys ≠ some (.str ("~/" ++ rest))) ∧
    expandMembers home (expandMembers home ms) = expandMembers home ms ∧
    expandMembers home (ms.overlay top) =
      Members.overlay (expandMembers home ms) (expandMembers home top) := by
  have hreached : ∀ keys, Json.reached? (.obj (expandMembers home ms)) keys =
      (Json.reached? (.obj ms) keys).map (expand home) := reached?_expand home (.obj ms)
  refine ⟨fun keys => ?_, fun keys rest h => ?_, expandMembers_expandMembers habsolute ms,
    expandMembers_overlay home ms top⟩
  · rw [hreached]
    cases Json.reached? (.obj ms) keys with
    | none => exact .none
    | some v => exact .some (becomes_expand home v)
  · rw [hreached] at h
    obtain ⟨v, -, hv⟩ := Option.map_eq_some_iff.mp h
    exact expand_ne_tilde habsolute v rest hv

/-- A second tilde is no longer a leading one, a path from the root stands for itself, and in an
array nothing is changed. -/
theorem nested_tildes_are_settled :
    let ms : Members := [("logs", .obj [("first", .str "~/~/x"), ("second", .str "~//y")]),
      ("others", .arr [.str "~/z"])]
    let top : Members := [("others", .str "~/z")]
    let expanded : Members := [("logs", .obj [("first", .str "/h/~/x"), ("second", .str "/y")]),
      ("others", .arr [.str "~/z"])]
    (Path.ofString "/h").isAbsolute = true ∧ expandMembers "/h" ms = expanded ∧
      (∀ keys, Option.Rel (Becomes "/h") (Json.reached? (.obj ms) keys)
        (Json.reached? (.obj expanded) keys)) ∧
      (∀ keys rest, Json.reached? (.obj expanded) keys ≠ some (.str ("~/" ++ rest))) ∧
      expandMembers "/h" expanded = expanded ∧
      expandMembers "/h" (ms.overlay top) = expanded.overlay [("others", .str "/h/z")] := by
  intro ms top expanded
  have habsolute : (Path.ofString "/h").isAbsolute = true := by decide
  have hexpanded : expandMembers "/h" ms = expanded := rfl
  have hsettled := expansion_is_settled "/h" ms top habsolute
  rw [hexpanded] at hsettled
  exact ⟨habsolute, hexpanded, hsettled⟩

end Config

end LintBridge
