import Criteria.Proofs.CommandLine.Layout

namespace Criteria.CommandLine

open Tasks (Command)

namespace Reading

variable {r : Reading}

theorem slot_of_posited {command : Command} {given : Slot × Setting}
    (posited : given ∈ command.posited) : given.1 = .name ∨ given.1 = .id := by
  cases command <;> simp_all [Tasks.Command.posited]

theorem exists_readAll_ending (closed : r.pending = none) (unmet : r.positionalMet = false)
    (command : Command) (fresh : ∀ given ∈ command.posited, r.get? given.1 = none) (dashed : Bool) :
    ∃ last settled,
      readAll command.level false r (Invocation.ending command dashed) = .ok (last, none) ∧
        last.settle = .ok settled ∧ settled.given = r.given ++ command.posited := by
  have settles := settle_of_closed closed
  cases command with
  | add name =>
    exact ⟨_, _, readAll_positional rfl settles unmet name,
      settle_of_takes .name true (.text name) (fresh _ List.mem_cons_self), rfl⟩
  | done id =>
    exact ⟨_, _, readAll_positional rfl settles unmet ((Setting.integer id).text?.getD ""),
      settle_of_takes .id true (.integer id) (fresh _ List.mem_cons_self), rfl⟩
  | init | ls =>
    refine ⟨r, r, ?_, settles, (List.append_nil _).symm⟩
    cases dashed with
    | false => rfl
    | true => exact readAll_dashes _ []

end Reading

namespace Invocation

variable {i : Invocation} (layout : i.Layout)

theorem level_long?_of_mem {choice : Choice} (member : choice ∈ i.choices) :
    i.command.level.long? choice.name = some choice.slot := by
  simp only [choices, List.mem_cons, List.mem_append, List.mem_ite_nil_right, List.not_mem_nil,
    or_false] at member
  obtain rfl | ⟨-, rfl⟩ | member := member
  · exact (Choice.db i.db).level_long?_of_isShared trivial _
  · exact Choice.verbose.level_long?_of_isShared trivial _
  · exact Choice.level_long?_of_mem member

theorem db_not_mem_choices (named : i.db ≠ "") : .db "" ∉ i.choices := by
  intro member
  have alone := (List.nodup_cons.mp i.nodup_choices).1
  obtain same | member := List.mem_cons.mp member
  · exact named (Choice.db.inj same).symm
  · exact alone (List.mem_map.mpr ⟨_, member, rfl⟩)

theorem database_eq {outer inner : Reading}
    (places : (inner.get? .db).or (outer.get? .db) = some (.text i.db))
    (environment : Option String) :
    database outer inner environment = i.db := by
  rw [database, Reading.text?, Reading.text?]
  cases behind : inner.get? .db <;> simp_all

theorem verbose_eq {outer inner : Reading}
    (places : (inner.get? .verbose).or (outer.get? .verbose) =
      if i.verbose then some .flag else none) :
    (outer.has .verbose || inner.has .verbose) = i.verbose := by
  have either := congrArg Option.isSome places
  rw [Reading.has, Reading.has, Bool.or_comm]
  cases is : i.verbose <;> simp_all

namespace Layout

theorem mem_choices {choice : Choice}
    (placed : choice ∈ layout.behind ∨ choice ∈ layout.before) : choice ∈ i.choices := by
  refine layout.complete.subset (List.mem_append.mpr ?_)
  exact placed.imp_right fun before => List.mem_append_left _ before

theorem nodup_behind : (layout.behind.map Choice.slot).Nodup := by
  have distinct := layout.nodup_places
  rw [List.map_append] at distinct
  exact (List.nodup_append.mp distinct).1

theorem nodup_before : (layout.before.map Choice.slot).Nodup := by
  have distinct := layout.nodup_places
  rw [List.map_append, List.map_append] at distinct
  exact (List.nodup_append.mp (List.nodup_append.mp distinct).2.1).1

/-- What stands in front of the command. -/
def outer : Reading :=
  ({} : Reading).give (layout.before.map Choice.given)

theorem readAll_outer (named : i.db ≠ "") :
    Reading.readAll .top false {} layout.arguments =
      .ok (layout.outer, some (i.command.level,
        layout.behind.map Choice.argument ++ ending i.command layout.dashed)) := by
  refine (Reading.readAll_choices (r := {}) layout.before _ rfl
    (fun choice before => choice.level_long?_of_isShared (layout.shared choice before) _)
    (fun before => db_not_mem_choices named (layout.mem_choices (.inr before)))
    layout.nodup_before).trans ?_
  exact Reading.readAll_name i.command.ofName?_word rfl _

theorem exists_readAll_inner (named : i.db ≠ "") :
    ∃ last inner,
      Reading.readAll i.command.level false {}
          (layout.behind.map Choice.argument ++ ending i.command layout.dashed) =
        .ok (last, none) ∧
      last.settle = .ok inner ∧
      inner.given = layout.behind.map Choice.given ++ i.command.posited := by
  rw [Reading.readAll_choices (r := {}) layout.behind _ rfl
    (fun choice behind => level_long?_of_mem (layout.mem_choices (.inl behind)))
    (fun behind => db_not_mem_choices named (layout.mem_choices (.inl behind)))
    layout.nodup_behind]
  exact Reading.exists_readAll_ending (r := ({} : Reading).give (layout.behind.map Choice.given))
    rfl rfl i.command (fun given posited => lookup_positional (Reading.slot_of_posited posited) _)
    layout.dashed

theorem places_shared {inner : Reading} {slot : Slot} (shared : slot = .db ∨ slot = .verbose)
    (written : inner.given = layout.behind.map Choice.given ++ i.command.posited) :
    (inner.get? slot).or (layout.outer.get? slot) = (i.choices.map Choice.given).lookup slot := by
  have named : slot ≠ .name ∧ slot ≠ .id := by obtain rfl | rfl := shared <;> decide
  rw [← layout.lookup_places slot, layout.lookup_leftOut shared, Option.or_none,
    ← layout.get?_inner written named]
  rfl

end Layout

/-- Neither the order of the options nor what their values look like makes a difference, and a
database that the environment names gives way to the one that is written. The variable `TDOO_DB` has
to be unset or to name a path that is not empty: an empty one is refused even where another database
is written. -/
theorem ofArguments_arguments (environment : Option String) (named : i.db ≠ "")
    (usable : environment ≠ some "") :
    ofArguments environment layout.arguments = .ok i := by
  obtain ⟨last, inner, back, settles, written⟩ := layout.exists_readAll_inner named
  have command := layout.command_eq written
  have db := database_eq
    ((layout.places_shared (.inl rfl) written).trans (i.lookup_choices _)) environment
  have verbose := verbose_eq ((layout.places_shared (.inr rfl) written).trans (i.lookup_choices _))
  have read := ofArguments_of_levels (layout.readAll_outer named) back rfl settles command usable
  rw [read, db, verbose]

/-- Values that look like options, separators and lists. -/
private def misleading : Invocation :=
  ⟨"--db==", true, .add "--list=Home" "-p=3" Int64.minValue ""⟩

private def misleadingLayout : misleading.Layout where
  before := [.verbose]
  behind := [.priority Int64.minValue, .db "--db==", .list "-p=3"]
  leftOut := [.content ""]
  dashed := false
  complete := by decide
  shared := by simp [Choice.IsShared]
  usual := by decide

theorem ofArguments_arguments_misleading :
    ("--db==" ≠ "" ∧ some "env.db" ≠ some "") ∧
      ofArguments (some "env.db") ["--verbose", "add", "--priority=-9223372036854775808",
          "--db=--db==", "--list=-p=3", "--", "--list=Home"] =
        .ok ⟨"--db==", true, .add "--list=Home" "-p=3" Int64.minValue ""⟩ := by
  have written : misleadingLayout.arguments = ["--verbose", "add",
      "--priority=-9223372036854775808", "--db=--db==", "--list=-p=3", "--", "--list=Home"] := by
    decide
  have read := ofArguments_arguments misleadingLayout (some "env.db") (by decide) (by decide)
  rw [written] at read
  exact ⟨by decide, read⟩

end Invocation

end Criteria.CommandLine
