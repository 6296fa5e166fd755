import ScentedGrid.CommandLine.Invocation

/-! Numbers on the command line. A number is read only if it fits in a word of 64 bits, and reading
the arguments keeps it as it was read, so no command is ever asked for more than a word can count. -/

namespace ScentedGrid.CommandLine

/-- Every number that was given is a word of 64 bits. -/
def Given.Words (given : Given) : Prop :=
  ∀ name number, (name, Value.number number) ∈ given.values → number < UInt64.size

theorem word_lt {characters : List Char} {number : Nat} (read : word? characters = some number) :
    number < UInt64.size :=
  of_decide_eq_true (Option.filter_eq_some_iff.1 read).2

theorem byte_le {characters : List Char} {number : Nat} (read : byte? characters = some number) :
    number ≤ 255 := by
  unfold byte? at read
  split at read
  · have zero := (Option.filter_eq_some_iff.1 read).2
    rw [beq_iff_eq.1 zero]
    exact Nat.zero_le _
  · exact of_decide_eq_true (Option.filter_eq_some_iff.1 read).2

theorem Kind.read_lt {kind : Kind} {text : String} {number : Nat}
    (read : kind.read? text = some (.number number)) : number < UInt64.size := by
  cases kind with
  | path =>
    simp only [Kind.read?] at read
    split at read <;> cases read
  | byte =>
    obtain ⟨found, digits, same⟩ := Option.map_eq_some_iff.1 read
    cases same
    exact Nat.lt_of_le_of_lt (byte_le digits) (by decide)
  | word =>
    obtain ⟨found, digits, same⟩ := Option.map_eq_some_iff.1 read
    cases same
    exact word_lt digits

variable {form : Form} {given found : Given} {arguments : List String} {text name : String}
  {flag : Flag}

theorem Given.Words.of_values (words : given.Words) (same : found.values = given.values) :
    found.Words := by
  intro name number member
  rw [same] at member
  exact words name number member

theorem withOperand_values (read : form.withOperand given text = .ok found) :
    found.values = given.values := by
  unfold Form.withOperand at read
  split at read
  · cases read
  · split at read
    · cases read
    · cases read
      rfl

theorem withValue_words (words : given.Words) (read : Form.withValue given flag text = .ok found) :
    found.Words := by
  unfold Form.withValue at read
  split at read
  · cases read
  · split at read
    · cases read
    · next value valued =>
      cases read
      intro name number member
      rcases List.mem_cons.1 member with same | earlier
      · cases same
        exact Kind.read_lt valued
      · exact words name number earlier

theorem operands_values (read : form.operands arguments given = .ok found) :
    found.values = given.values := by
  fun_induction Form.operands form arguments given with
  | case1 =>
    cases read
    rfl
  | case2 => cases read
  | case3 given argument rest next taken ih => rw [ih read, withOperand_values taken]

theorem collect_words (words : given.Words)
    (read : form.collect arguments given = .ok (some found)) : found.Words := by
  fun_induction Form.collect form arguments given with
  | case1 =>
    cases read
    exact words
  | case2 argument rest given dashes =>
    cases operands : form.operands rest given with
    | error misuse =>
      rw [operands] at read
      cases read
    | ok taken =>
      rw [operands] at read
      cases read
      exact words.of_values (operands_values operands)
  | case3 => cases read
  | case4 argument rest given plain next taken ih =>
    exact ih (words.of_values (withOperand_values taken)) read
  | case5 => cases read
  | case6 => cases read
  | case7 => cases read
  | case8 argument rest given flag text next valued _ _ _ _ ih =>
    exact ih (withValue_words words valued) read
  | case9 => cases read
  | case10 => cases read
  | case11 argument given flag text rest plain next valued _ _ _ _ ih =>
    exact ih (withValue_words words valued) read
  | case12 => cases read

theorem number_lt {number : Nat} (words : given.Words) (read : given.number? name = some number) :
    number < UInt64.size := by
  unfold Given.number? at read
  split at read
  · next value looked =>
    cases read
    obtain ⟨before, after, split, _⟩ := List.lookup_eq_some_iff.1 looked
    exact words name number (by rw [split]; simp)
  · cases read

/-- A number that is not given is the standard one. -/
theorem number_getD_lt (words : given.Words) {standard : Nat} (small : standard < UInt64.size) :
    (given.number? name).getD standard < UInt64.size := by
  cases read : given.number? name with
  | none => exact small
  | some number => exact number_lt words read

theorem invocation_of_parse {invocation : Invocation}
    (asked : Invocation.parse arguments = .ok invocation) :
    invocation = .help ∨ ∃ command : Subcommand, ∃ given : Given, given.Words ∧
      command.invocation given = .ok invocation := by
  unfold Invocation.parse at asked
  split at asked
  · cases asked
  · split at asked
    · split at asked
      · cases asked
      · cases asked
        exact .inl rfl
      · next collected =>
        refine .inr ⟨_, _, collect_words ?_ collected, asked⟩
        intro name number member
        cases member
    · split at asked
      · unfold helpTopic at asked
        split at asked
        · cases asked
          exact .inl rfl
        · split at asked
          · cases asked
            exact .inl rfl
          · cases asked
        · cases asked
      · split at asked
        · cases asked
        · split at asked
          · cases asked
            exact .inl rfl
          · cases asked

/-- The numbers of a benchmark have 64 bits, whether they are given or not. -/
theorem bench_words {plan : Plan} {seed : UInt64} {rounds : Nat}
    (asked : Invocation.parse arguments = .ok (.bench plan seed rounds)) :
    plan.robots < UInt64.size ∧ plan.commands < UInt64.size ∧ rounds < UInt64.size := by
  rcases invocation_of_parse asked with help | ⟨command, given, words, invoked⟩
  · cases help
  · cases command with
    | bench =>
      simp only [Subcommand.invocation, Subcommand.withSeed] at invoked
      split at invoked
      · cases invoked
        exact ⟨number_getD_lt words (by decide), number_getD_lt words (by decide),
          number_getD_lt words (by decide)⟩
      · cases invoked
    | generate =>
      simp only [Subcommand.invocation, Subcommand.withSeed] at invoked
      split at invoked <;> cases invoked
    | compile | run | exec | disasm =>
      simp only [Subcommand.invocation, Subcommand.withOperand] at invoked
      split at invoked <;> cases invoked

end ScentedGrid.CommandLine
