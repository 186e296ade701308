import ReportIndex.Proofs.Page.Version

/-!
Contract: a context after a row of changes, as far as a rendering shows it.

Owns:
- the kinds of changes, and what a rendering sees of a context for each kind;
- the last change of a kind in a row, and rows without the earlier ones;
- after a row of changes, a rendering sees the last change of each kind.

Does not own: what a rendering makes of what it sees.
-/

namespace ReportIndex.Context

/-! ## Kinds of changes -/

/-- What a change is about. -/
inductive Change.Kind where
  | version
  | theme
  | links
  | assets
  | title
deriving DecidableEq

def Change.kind : Change → Change.Kind
  | .version _ => .version
  | .theme _ => .theme
  | .links _ => .links
  | .assets _ => .assets
  | .title _ => .title

/-- The values that a rendering sees for a kind. -/
def Change.Kind.Value : Change.Kind → Type
  | .version => Option String
  | .theme => Theme
  | .links => LinkStrategy
  | .assets => AssetRoot
  | .title => String

/-- What a rendering sees of a context for a kind: of a version, its active form. -/
def seen (context : Context) : (kind : Change.Kind) → kind.Value
  | .version => context.activeVersion
  | .theme => context.theme
  | .links => context.links
  | .assets => context.assets
  | .title => context.title

/-- A change decides alone what is seen for its kind. -/
theorem seen_change_self (context other : Context) (change : Change) :
    (context.change change).seen change.kind = (other.change change).seen change.kind := by
  cases change <;> rfl

/-- A change leaves all other kinds alone. -/
theorem seen_change_of_ne
    (context : Context)
    {change : Change}
    {kind : Change.Kind}
    (different : change.kind ≠ kind) :
    (context.change change).seen kind = context.seen kind := by
  cases change <;> cases kind <;> first | rfl | exact absurd rfl different

/-! ## Rows of changes -/

/-- The context after a row of changes, one after the other. -/
def changeAll (context : Context) (changes : List Change) : Context :=
  changes.foldl change context

namespace Change

/-- The last change of a kind. -/
def last? (kind : Kind) (changes : List Change) : Option Change :=
  (changes.filter (·.kind = kind)).getLast?

/-- A row without the changes of a kind that others of that kind follow. -/
def dropEarlier (kind : Kind) : List Change → List Change
  | [] => []
  | first :: rest =>
      if first.kind = kind ∧ ∃ later ∈ rest, later.kind = kind then dropEarlier kind rest
      else first :: dropEarlier kind rest

theorem last?_cons (kind : Kind) (first : Change) (rest : List Change) :
    last? kind (first :: rest) =
      (last? kind rest).or (if first.kind = kind then some first else none) := by
  rw [last?, last?]
  by_cases same : first.kind = kind
  · rw [List.filter_cons_of_pos (by simpa using same), List.getLast?_cons, if_pos same]
    cases (rest.filter (·.kind = kind)).getLast? <;> rfl
  · rw [List.filter_cons_of_neg (by simpa using same), if_neg same, Option.or_none]

theorem kind_of_last?
    {kind : Kind}
    {changes : List Change}
    {last : Change}
    (found : last? kind changes = some last) :
    last.kind = kind := by
  have member := List.mem_of_getLast? found
  simpa using (List.mem_filter.mp member).2

theorem isSome_last?
    {kind : Kind}
    {changes : List Change}
    (present : ∃ change ∈ changes, change.kind = kind) :
    (last? kind changes).isSome := by
  obtain ⟨change, member, same⟩ := present
  have kept : change ∈ changes.filter (·.kind = kind) := List.mem_filter.mpr ⟨member, by simpa⟩
  rw [last?, List.getLast?_isSome]
  exact List.ne_nil_of_mem kept

/-- What is dropped is the last change of no kind. -/
theorem last?_dropEarlier (kind other : Kind) (changes : List Change) :
    last? other (dropEarlier kind changes) = last? other changes := by
  induction changes with
  | nil => rfl
  | cons first rest inductionHypothesis =>
      rw [dropEarlier]
      split
      next dropped =>
        obtain ⟨isKind, followed⟩ := dropped
        rw [inductionHypothesis, last?_cons]
        by_cases same : first.kind = other
        -- `first` is dropped only if a later change is the last of the kind already.
        · subst same
          obtain ⟨last, found⟩ := Option.isSome_iff_exists.mp (isSome_last? (isKind ▸ followed))
          rw [found, Option.some_or]
        · rw [if_neg same, Option.or_none]
      next kept => rw [last?_cons, last?_cons, inductionHypothesis]

end Change

open Change (last? dropEarlier kind_of_last?)

/-- After a row of changes, the last change of a kind is seen, or what was there before. -/
theorem seen_changeAll (context : Context) (changes : List Change) (kind : Change.Kind) :
    (context.changeAll changes).seen kind =
      match last? kind changes with
      | some last => (context.change last).seen kind
      | none => context.seen kind := by
  -- The rest of the row starts from the context that `first` leaves.
  induction changes generalizing context with
  | nil => rfl
  | cons first rest inductionHypothesis =>
      rw [changeAll, List.foldl_cons, ← changeAll, inductionHypothesis, Change.last?_cons]
      cases found : last? kind rest with
      | some last =>
          obtain rfl := kind_of_last? found
          exact seen_change_self _ _ last
      | none =>
          by_cases same : first.kind = kind
          · simp [same]
          · simpa [same] using seen_change_of_ne context same

/-! ## Renderings -/

/-- Nothing that is rendered with the one context differs from what is rendered with the
other. -/
structure RendersAlike (context other : Context) : Prop where
  cards : ∀ catalog, context.cards catalog = other.cards catalog
  grid : ∀ catalog, Page.grid catalog context = Page.grid catalog other
  page : ∀ catalog, Page.page catalog context = Page.page catalog other

theorem rendersAlike_of_seen
    {context other : Context}
    (same : ∀ kind, context.seen kind = other.seen kind) :
    RendersAlike context other where
  cards := cards_eq (same .version) (same .links) (same .assets)
  grid := Page.grid_eq (same .version) (same .links) (same .assets)
  page catalog :=
    Page.page_eq (same .version) (same .links) (same .assets) catalog (same .title) (same .theme)

theorem rendersAlike_of_last
    {context other : Context}
    {changes otherChanges : List Change}
    (sameLast : ∀ kind, last? kind otherChanges = last? kind changes)
    (sameStart : ∀ kind, last? kind changes = none → other.seen kind = context.seen kind) :
    RendersAlike (other.changeAll otherChanges) (context.changeAll changes) := by
  refine rendersAlike_of_seen fun kind => ?_
  rw [seen_changeAll, seen_changeAll, sameLast]
  cases found : last? kind changes with
  | none => exact sameStart kind found
  | some last =>
      obtain rfl := kind_of_last? found
      exact seen_change_self other context last

/-- **Renderings show the last change of each kind, and of the context before only what was
never changed.** So changes may be put in another order that keeps the last of each kind, and
those that others of their kind follow may be left out. -/
theorem last_changes_decide (context : Context) (changes : List Change) :
    (∀ (other : Context) (otherChanges : List Change),
      (∀ kind, last? kind otherChanges = last? kind changes) →
      (∀ kind, last? kind changes = none → other.seen kind = context.seen kind) →
      RendersAlike (other.changeAll otherChanges) (context.changeAll changes))
      ∧ ∀ kind,
          RendersAlike (context.changeAll (dropEarlier kind changes))
            (context.changeAll changes) :=
  ⟨fun _ _ sameLast sameStart => rendersAlike_of_last sameLast sameStart,
    fun kind => rendersAlike_of_last (fun other => Change.last?_dropEarlier kind other changes)
      fun _ _ => rfl⟩

/-- Two rows of changes with a rule of the host's own at their ends, from contexts that have
no more than their title in common. -/
theorem last_changes_of_unlike_rows :
    let mark := LinkStrategy.custom fun href version => href ++ "@" ++ version
    let changes : List Change :=
      [.version "v1", .links .path, .theme .light, .version " v2", .assets (.ofText "/img/"),
        .theme .dark, .links mark]
    let otherChanges : List Change :=
      [.links mark, .theme .dark, .version "v1", .version "v9", .assets (.ofText "/img/"),
        .version " v2"]
    let other : Context := { version := some "old", theme := .light, links := .path }
    let catalog : Catalog := ⟨[⟨"A", "a.html", ""⟩], by decide⟩
    RendersAlike (other.changeAll otherChanges) (changeAll {} changes)
      ∧ RendersAlike (changeAll {} (dropEarlier .version changes)) (changeAll {} changes)
      ∧ ((other.changeAll otherChanges).cards catalog).map (·.href) = ["a.html@v2"] := by
  intro mark changes otherChanges other catalog
  have sameLast (kind : Change.Kind) : last? kind otherChanges = last? kind changes := by
    cases kind <;> rfl
  have sameStart (kind : Change.Kind) (never : last? kind changes = none) :
      other.seen kind = seen {} kind := by
    cases kind with
    | title => rfl
    | version | theme | links | assets => cases never
  have alike := last_changes_decide {} changes
  refine ⟨alike.1 other otherChanges sameLast sameStart, alike.2 .version, by decide⟩

end ReportIndex.Context
