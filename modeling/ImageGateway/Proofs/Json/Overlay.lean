import ImageGateway.Proofs.Json.Content

/-! One JSON value laid over another as a patch: objects are merged at every depth, and anything else
is replaced. Only what the patch says counts. -/
namespace ImageGateway.Json

mutual

/-- Objects are merged member by member, at every depth, and new members come last; any other patch
replaces the value. -/
def overlay : Json → Json → Json
  | .object base, .object patch =>
    .object (overlayMembers patch base ++ patch.filter fun m => (find? m.1 base).isNone)
  | _, patch => patch

/-- The members with what the patch has under their names laid over their values. -/
def overlayMembers (patch : List (String × Json)) : List (String × Json) → List (String × Json)
  | [] => []
  | (name, value) :: rest =>
    (name, ((find? name patch).map fun change => value.overlay change).getD value) ::
      overlayMembers patch rest

end

def isObject : Json → Bool
  | .object _ => true
  | _ => false

variable {base patch members : List (String × Json)} {name : String} {v w d : Json}

theorem names_overlayMembers :
    (overlayMembers patch members).map Prod.fst = members.map Prod.fst := by
  induction members with
  | nil => rfl
  | cons m rest ih =>
    obtain ⟨key, value⟩ := m
    rw [overlayMembers, List.map_cons, List.map_cons, ih]

theorem find?_overlayMembers :
    find? name (overlayMembers patch members) =
      (find? name members).map fun value => ((find? name patch).map value.overlay).getD value := by
  induction members with
  | nil => rfl
  | cons m rest ih =>
    obtain ⟨key, value⟩ := m
    rw [overlayMembers, find?, find?]
    split
    next same => subst same; rfl
    next => exact ih

theorem isObject_congr (same : v.content = w.content) : v.isObject = w.isObject := by
  cases v <;> cases w <;> simp [content, isObject] at same ⊢

theorem overlay_plain (plain : d.isObject = false) : v.overlay d = d := by
  cases d with
  | object members => contradiction
  | _ => rw [overlay]; nofun

theorem overlayMembers_nil : overlayMembers [] members = members := by
  induction members with
  | nil => rfl
  | cons m rest ih =>
    obtain ⟨key, value⟩ := m
    rw [overlayMembers, ih]
    rfl

theorem overlay_empty : (Json.object members).overlay (.object []) = .object members := by
  rw [overlay, overlayMembers_nil, List.filter_nil, List.append_nil]

theorem contentMembers_filter (p : String → Bool) (members : List (String × Json)) :
    contentMembers (members.filter fun m => p m.1) =
      (contentMembers members).filter fun m => p m.1 := by
  rw [contentMembers_eq_map, contentMembers_eq_map, List.filter_map]
  rfl

mutual

theorem overlay_congr : (v : Json) → {d e : Json} → d.content = e.content →
    (v.overlay d).content = (v.overlay e).content
  | .object base, d, e, same => by
    have kind := isObject_congr same
    cases d with
    | object patch =>
      cases e with
      | object other =>
        rw [content, content, Content.object.injEq] at same
        have merged := overlayMembers_congr base same
        have new : contentMembers (patch.filter fun m => (find? m.1 base).isNone) =
            contentMembers (other.filter fun m => (find? m.1 base).isNone) := by
          rw [contentMembers_filter fun name => (find? name base).isNone, same, ←
            contentMembers_filter fun name => (find? name base).isNone]
        rw [overlay, overlay, content, content, contentMembers_eq_map, contentMembers_eq_map,
          List.map_append, List.map_append, ← contentMembers_eq_map, ← contentMembers_eq_map,
          ← contentMembers_eq_map, ← contentMembers_eq_map, merged, new]
      | _ => contradiction
    | _ => rwa [overlay_plain rfl, overlay_plain (d := e) kind.symm]
  | .null, _, _, same | .bool _, _, _, same | .integer _, _, _, same | .number _ _, _, _, same
  | .string _, _, _, same | .array _, _, _, same => by
    rw [overlay, overlay]
    · exact same
    · nofun
    · nofun

theorem overlayMembers_congr : (base : List (String × Json)) → {patch other : List (String × Json)} →
    contentMembers patch = contentMembers other →
    contentMembers (overlayMembers patch base) = contentMembers (overlayMembers other base)
  | [], _, _, _ => rfl
  | (name, value) :: rest, patch, other, same => by
    have looked : (find? name patch).map content = (find? name other).map content := by
      rw [← lookup_contentMembers, ← lookup_contentMembers, same]
    have head : (((find? name patch).map value.overlay).getD value).content =
        (((find? name other).map value.overlay).getD value).content := by
      cases left : find? name patch with
      | none =>
        cases right : find? name other with
        | none => rfl
        | some e => simp [left, right] at looked
      | some d =>
        cases right : find? name other with
        | none => simp [left, right] at looked
        | some e =>
          rw [left, right] at looked
          exact overlay_congr value (Option.some.inj looked)
    rw [overlayMembers, overlayMembers, contentMembers, contentMembers,
      overlayMembers_congr rest same, head]

end

end ImageGateway.Json
