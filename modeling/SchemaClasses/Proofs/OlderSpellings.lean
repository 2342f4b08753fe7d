import SchemaClasses.Proofs.FlagReading

/-! Older spellings in a command line. They are replaced before anything is read, and it is not
known then whether an argument is an option or the value of one. Nothing is lost by this: what
begins with a dash is never read as the value of the option before it, and no option has one of the
older letters. So the only older spellings in arguments that can be read are those of the namespace,
where the last letter would be a value. -/

namespace SchemaClasses

/-! ### The spellings that are replaced -/

/-- All spellings that are replaced by other ones. -/
def olderSpellings : List String :=
  ["-ns", "-nS", "-Ns", "-NS", "-E", "-O"]

/-- The texts that may become the given one when capitals of ASCII become small. -/
def caseVariants : List Char → List (List Char)
  | [] => [[]]
  | c :: cs => (caseVariants cs).flatMap fun variant => [c :: variant, c.toUpper :: variant]

theorem mem_caseVariants (cs : List Char) : cs ∈ caseVariants (cs.map Char.toLower) := by
  induction cs with
  | nil => exact List.mem_singleton_self []
  | cons c cs ih =>
      rw [List.map_cons, caseVariants, List.mem_flatMap]
      refine ⟨cs, ih, ?_⟩
      rcases eq_or_of_toLower (c := c) rfl with hc | hc
      · rw [← hc]
        exact List.mem_cons_self
      · rw [← hc]
        exact List.mem_cons_of_mem _ (List.mem_singleton_self _)

theorem of_asciiLower_eq {arg old : String} (h : Text.asciiLower arg = old) (P : String → Prop)
    (hall : ∀ variant ∈ caseVariants old.toList, P (String.ofList variant)) : P arg := by
  have hvariant := mem_caseVariants arg.toList
  rw [← h, Text.asciiLower, String.toList_ofList] at hall
  have harg := hall _ hvariant
  rwa [String.ofList_toList] at harg

theorem asciiLower_eq_namespace_iff (arg : String) :
    Text.asciiLower arg = "-ns" ↔ arg ∈ ["-ns", "-nS", "-Ns", "-NS"] := by
  refine ⟨fun h => of_asciiLower_eq h (· ∈ ["-ns", "-nS", "-Ns", "-NS"]) (by decide), fun h => ?_⟩
  have hall : ∀ arg ∈ ["-ns", "-nS", "-Ns", "-NS"], Text.asciiLower arg = "-ns" := by decide
  exact hall arg h

theorem normalizeArg_of_asciiLower {arg : String} (h : Text.asciiLower arg ∉ ["-ns", "-e", "-o"]) :
    normalizeArg arg = arg := by
  apply normalizeArg_eq_self
  intro old hold heq
  apply h
  rwa [Text.asciiLower, heq, String.ofList_toList]

/-- What is replaced is one of the older spellings, and all of these are. -/
theorem normalizeArg_ne_self_iff (arg : String) :
    normalizeArg arg ≠ arg ↔ arg ∈ olderSpellings := by
  constructor
  · intro hne
    by_cases hlower : Text.asciiLower arg ∈ ["-ns", "-e", "-o"]
    · have hall : ∀ old ∈ ["-ns", "-e", "-o"], ∀ variant ∈ caseVariants old.toList,
          normalizeArg (String.ofList variant) ≠ String.ofList variant →
            String.ofList variant ∈ olderSpellings := by
        decide
      exact of_asciiLower_eq rfl (fun arg => normalizeArg arg ≠ arg → arg ∈ olderSpellings)
        (hall _ hlower) hne
    · exact absurd (normalizeArg_of_asciiLower hlower) hne
  · intro h
    have hall : ∀ arg ∈ olderSpellings, normalizeArg arg ≠ arg := by decide
    exact hall arg h

theorem normalizeArg_eq_self_iff (arg : String) :
    normalizeArg arg = arg ↔ arg ∉ olderSpellings := by
  rw [← normalizeArg_ne_self_iff, not_not]

theorem normalizeArg_normalizeArg (arg : String) :
    normalizeArg (normalizeArg arg) = normalizeArg arg := by
  by_cases h : arg ∈ olderSpellings
  · have hall : ∀ arg ∈ olderSpellings, normalizeArg (normalizeArg arg) = normalizeArg arg := by
      decide
    exact hall arg h
  · rw [(normalizeArg_eq_self_iff arg).mpr h, (normalizeArg_eq_self_iff arg).mpr h]

/-! ### Arguments that are read -/

namespace Parsing

/-- A run over arguments reads each of them on its way, but for two dashes at the end. -/
theorem exists_argument_of_arguments {p q : Parsing} {args : List String}
    (h : p.arguments args = .ok q) {arg : String} (harg : arg ∈ args) :
    arg = "--" ∨ ∃ before after : Parsing, before.argument arg = .ok after := by
  induction args generalizing p with
  | nil => cases harg
  | cons first rest ih =>
      by_cases hdashes : first = "--"
      · rw [arguments, if_pos hdashes] at h
        by_cases hrest : rest.isEmpty
        · rw [List.isEmpty_iff.mp hrest, List.mem_singleton] at harg
          exact Or.inl (harg.trans hdashes)
        · rw [if_neg hrest] at h
          cases h
      · cases hfirst : p.argument first with
        | error e =>
            rw [arguments, if_neg hdashes, hfirst] at h
            cases h
        | ok p' =>
            rw [arguments_cons hdashes hfirst] at h
            rcases List.mem_cons.mp harg with rfl | harg
            · exact Or.inr ⟨p, p', hfirst⟩
            · exact ih h harg

/-- The older letters are not read, not even where an option waits for its value. -/
theorem argument_older_letter (p : Parsing) {arg : String} (h : arg ∈ ["-E", "-O"]) :
    p.argument arg = .error .unknownArgument := by
  rcases List.mem_cons.mp h with rfl | h
  · rfl
  · rw [List.mem_singleton.mp h]
    rfl

/-- Of arguments that are read, none is replaced but an older spelling of the namespace. -/
theorem normalizeArg_of_arguments {p q : Parsing} {args : List String}
    (h : p.arguments args = .ok q) {arg : String} (harg : arg ∈ args)
    (hname : Text.asciiLower arg ≠ "-ns") : normalizeArg arg = arg := by
  rw [normalizeArg_eq_self_iff]
  intro holder
  have hsplit : arg ∈ ["-ns", "-nS", "-Ns", "-NS"] ++ ["-E", "-O"] := holder
  rcases List.mem_append.mp hsplit with hspelling | hletter
  · exact hname ((asciiLower_eq_namespace_iff arg).mpr hspelling)
  · rcases exists_argument_of_arguments h harg with rfl | ⟨before, after, hread⟩
    · exact absurd hletter (by decide)
    · rw [argument_older_letter before hletter] at hread
      cases hread

end Parsing

theorem Flags.map_normalizeArg_of_ofArguments {args : List String} {flags : Flags}
    (h : ofArguments args = .ok flags) (hname : ∀ arg ∈ args, Text.asciiLower arg ≠ "-ns") :
    args.map normalizeArg = args := by
  rw [ofArguments] at h
  cases hread : Parsing.start.arguments args with
  | error e =>
      rw [hread] at h
      cases h
  | ok q =>
      have hself : ∀ arg ∈ args, normalizeArg arg = arg := fun arg harg =>
        Parsing.normalizeArg_of_arguments hread harg (hname arg harg)
      rw [List.map_congr_left hself, List.map_id']

/-- Where no argument is an older spelling of the namespace, and the arguments can be read as they
stand, none of them is replaced, and they are read to the same flags. In any arguments, each stays
in its place, only older spellings are replaced, and replacing them once more changes nothing. -/
theorem ofCommandLine_of_ofArguments :
    (∀ (args : List String) (flags : Flags), (∀ arg ∈ args, Text.asciiLower arg ≠ "-ns") →
      Flags.ofArguments (args.drop 1) = .ok flags →
      Flags.ofCommandLine args = .ok flags ∧ (args.drop 1).map normalizeArg = args.drop 1) ∧
    ∀ args : List String,
      (args.map normalizeArg).length = args.length ∧
      (∀ i : Nat, (args.map normalizeArg)[i]? = args[i]?.map normalizeArg) ∧
      (∀ arg ∈ args, Text.asciiLower arg ∉ ["-ns", "-e", "-o"] → normalizeArg arg = arg) ∧
      (∀ arg ∈ args, normalizeArg arg ≠ arg ↔ arg ∈ olderSpellings) ∧
      (args.map normalizeArg).map normalizeArg = args.map normalizeArg := by
  refine ⟨fun args flags hname hread => ?_, fun args =>
    ⟨List.length_map _, fun i => List.getElem?_map, ?_, ?_, ?_⟩⟩
  · have hself := Flags.map_normalizeArg_of_ofArguments hread
      fun arg harg => hname arg (List.mem_of_mem_drop harg)
    rw [Flags.ofCommandLine, ← List.map_drop, hself]
    exact ⟨hread, rfl⟩
  · exact fun arg _ hlower => normalizeArg_of_asciiLower hlower
  · exact fun arg _ => normalizeArg_ne_self_iff arg
  · simp only [List.map_map, Function.comp_def, normalizeArg_normalizeArg]

-- What stands for the namespace `s` is taken for the older spelling, which has no value then.
example : Flags.ofArguments ["-ns"] = .ok { Flags.default with namespaceName := some "s" } ∧
    Flags.ofCommandLine ["gqlmodel", "-ns"] = .error .invalidValue := by decide

namespace Conserved

/-- The older spellings of the letters are the program's name and parts of values and bundles. -/
def arguments : List String :=
  ["-E", "-vqn-NS", "-e", "-", "-HX-NS: -O", "--output=-O", "-ljava"]

def flags : Flags :=
  { Flags.default with
    namespaceName := some "-NS", endpoint := some "-", output := some "-O", lang := some .java,
    headers := ["X-NS: -O"], verbose := true, quiet := true }

theorem ofCommandLine_of_ofArguments_of_values :
    (∀ arg ∈ arguments, Text.asciiLower arg ≠ "-ns") ∧
    Flags.ofArguments (arguments.drop 1) = .ok flags ∧
    Flags.ofCommandLine arguments = .ok flags ∧
    arguments.map normalizeArg = "-e" :: arguments.drop 1 := by
  have hname : ∀ arg ∈ arguments, Text.asciiLower arg ≠ "-ns" := by decide
  have hread : Flags.ofArguments (arguments.drop 1) = .ok flags := by decide
  obtain ⟨hcommand, hself⟩ := ofCommandLine_of_ofArguments.1 arguments flags hname hread
  exact ⟨hname, hread, hcommand, congrArg ("-e" :: ·) hself⟩

end Conserved

end SchemaClasses
