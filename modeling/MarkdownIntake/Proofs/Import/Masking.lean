import MarkdownIntake.Import.Push

/-!
This module contains what a push tells about its token. The token is hidden in the shown command, and
so in every result, exactly if no other word of the command is the name of the token option.
-/

namespace MarkdownIntake.Import

theorem masked_cons_of_ne {word : String} (h : word ≠ tokenOption) (rest : List String) :
    masked (word :: rest) = word :: masked rest := by
  cases rest <;> simp [masked, h]

theorem masked_tokenOption_cons (word : String) (rest : List String) :
    masked (tokenOption :: word :: rest) = tokenOption :: hiddenToken :: rest := by
  simp [masked]

theorem masked_append {words : List String} (h : tokenOption ∉ words) (rest : List String) :
    masked (words ++ rest) = words ++ masked rest := by
  induction words with
  | nil => rfl
  | cons word words ih =>
    rw [List.mem_cons, not_or] at h
    rw [List.cons_append, masked_cons_of_ne (Ne.symm h.1), ih h.2, List.cons_append]

theorem getLast?_masked {words : List String} (h : tokenOption ∈ words) (option token : String) :
    (masked (words ++ [option, token])).getLast? = some token := by
  induction words with
  | nil => simp at h
  | cons word rest ih =>
    by_cases hword : word = tokenOption
    . subst hword
      cases rest with
      | nil => simp [masked_tokenOption_cons]
      | cons next rest => simp [masked_tokenOption_cons, List.getLast?_cons]
    . have hrest := ih ((List.mem_cons.mp h).resolve_left (Ne.symm hword))
      rw [List.cons_append, masked_cons_of_ne hword, List.getLast?_cons, hrest]
      rfl

/-! ### Commands -/

def bareCommand (spaceId environmentId file : String) : List String :=
  ["contentful", "space", "import", "--space-id", spaceId, "--environment-id", environmentId,
    "--content-file", file]

theorem mem_bareCommand_iff (spaceId environmentId file : String) :
    tokenOption ∈ bareCommand spaceId environmentId file
      ↔
    tokenOption ∈ [spaceId, environmentId, file] := by
  simp [bareCommand, tokenOption]

section

variable {spaceId environmentId file : String}

theorem masked_bareCommand (h : tokenOption ∉ [spaceId, environmentId, file]) (token : String) :
    masked (bareCommand spaceId environmentId file ++ [tokenOption, token])
      =
    bareCommand spaceId environmentId file ++ [tokenOption, hiddenToken] := by
  rw [← mem_bareCommand_iff] at h
  rw [masked_append h, masked_tokenOption_cons]

theorem getLast?_masked_bareCommand (h : tokenOption ∈ [spaceId, environmentId, file])
    (token : String) :
    (masked (bareCommand spaceId environmentId file ++ [tokenOption, token])).getLast?
      =
    some token := by
  rw [← mem_bareCommand_iff] at h
  exact getLast?_masked h tokenOption token

variable (hspace : spaceId ≠ "") (henvironment : environmentId ≠ "")
include hspace henvironment

theorem command_without_token :
    command { spaceId, environmentId } file = .ok (bareCommand spaceId environmentId file) := by
  simp [command, bareCommand, hspace, henvironment]

theorem command_with_token {token : String} (htoken : token ≠ "") :
    command { spaceId, environmentId, managementToken := some token } file
      =
    .ok (bareCommand spaceId environmentId file ++ [tokenOption, token]) := by
  simp only [command, String.isEmpty_iff, hspace, henvironment, if_false]
  rfl

theorem masked_command_iff :
    (∀ token, token ≠ "" →
      (command { spaceId, environmentId, managementToken := some token } file).map masked
        =
      .ok (bareCommand spaceId environmentId file ++ [tokenOption, hiddenToken]))
      ↔
    tokenOption ∉ [spaceId, environmentId, file] := by
  refine ⟨?_, ?_⟩
  . intro h hoption
    have hmasked := h "a" (by decide)
    rw [command_with_token hspace henvironment (by decide), Except.map, Except.ok.injEq] at hmasked
    have hlast := getLast?_masked_bareCommand hoption "a"
    rw [hmasked] at hlast
    simp [hiddenToken] at hlast
  . intro hoption token htoken
    rw [command_with_token hspace henvironment htoken, Except.map, masked_bareCommand hoption]

end

/-! ### Results -/

theorem shownCommand_pushResult (words : List String) (timeout : Int) (ending : Ending) :
    (pushResult words timeout ending).shownCommand = masked words := by
  unfold pushResult
  split
  all_goals rfl

theorem pushResult_congr {words others : List String} (h : masked words = masked others)
    (timeout : Int) (ending : Ending) :
    pushResult words timeout ending = pushResult others timeout ending := by
  unfold pushResult
  split
  all_goals rw [h]

theorem pushResult_said_congr (words others : List String) (timeout : Int) (ending : Ending) :
    (pushResult words timeout ending).success = (pushResult others timeout ending).success
      ∧ (pushResult words timeout ending).error = (pushResult others timeout ending).error := by
  unfold pushResult
  split <;> exact ⟨rfl, rfl⟩

def report (program : Program) (target : Target) (file : String) (timeout : Int) :
    Except PushError PushResult :=
  (push program target file timeout).map (·.2)

theorem report_of_command {target : Target} {file : String} {words : List String}
    (h : command target file = .ok words) (ending : Ending) (timeout : Int) :
    report { ending } target file timeout = .ok (pushResult words timeout ending) := by
  simp [report, push, h, bind, Except.bind, pure, Except.pure, Except.map]

theorem report_eq_iff {spaceId environmentId file : String} (hspace : spaceId ≠ "")
    (henvironment : environmentId ≠ "") (ending : Ending) (timeout : Int) :
    (∃ result, ∀ token, token ≠ "" →
      report { ending } { spaceId, environmentId, managementToken := some token } file timeout
        =
      .ok result)
      ↔
    tokenOption ∉ [spaceId, environmentId, file] := by
  have hreport (token : String) (htoken : token ≠ "") :
      report { ending } { spaceId, environmentId, managementToken := some token } file timeout
        =
      .ok (pushResult (bareCommand spaceId environmentId file ++ [tokenOption, token]) timeout ending) :=
    report_of_command (command_with_token hspace henvironment htoken) ending timeout
  refine ⟨?_, ?_⟩
  . rintro ⟨result, h⟩ hoption
    -- Two tokens are shown, so the results cannot be the same.
    have hlast (token : String) (htoken : token ≠ "") :
        result.shownCommand.getLast? = some token := by
      have hresult := h token htoken
      rw [hreport token htoken, Except.ok.injEq] at hresult
      rw [← hresult, shownCommand_pushResult, getLast?_masked_bareCommand hoption]
    have hsame := (hlast "a" (by decide)).symm.trans (hlast "b" (by decide))
    simp at hsame
  . intro hoption
    refine ⟨pushResult (bareCommand spaceId environmentId file ++ [tokenOption, hiddenToken])
      timeout ending, ?_⟩
    intro token htoken
    rw [hreport token htoken, Except.ok.injEq]
    apply pushResult_congr
    rw [masked_bareCommand hoption, masked_bareCommand hoption]

/--
The token is hidden for every space, environment and file none of which is named as the token option
is: then the shown command is that of a push without a token, with a hidden one at its end, and what
is reported is the same for all tokens. With any other, neither holds.
-/
theorem token_hidden_iff {spaceId environmentId : String} (hspace : spaceId ≠ "")
    (henvironment : environmentId ≠ "") (file : String) :
    ∃ bare, command { spaceId, environmentId } file = .ok bare
      ∧ ((∀ token, token ≠ "" →
          (command { spaceId, environmentId, managementToken := some token } file).map masked
            =
          .ok (bare ++ [tokenOption, hiddenToken]))
        ↔
        tokenOption ∉ [spaceId, environmentId, file])
      ∧ ∀ (ending : Ending) (timeout : Int),
        ((∃ result, ∀ token, token ≠ "" →
          report { ending } { spaceId, environmentId, managementToken := some token } file timeout
            =
          .ok result)
        ↔
        tokenOption ∉ [spaceId, environmentId, file]) :=
  ⟨bareCommand spaceId environmentId file, command_without_token hspace henvironment,
    masked_command_iff hspace henvironment, report_eq_iff hspace henvironment⟩

theorem token_hidden_iff_master :
    tokenOption ∉ ["abc", "master", "import.json"]
      ∧ ∃ result, ∀ token, token ≠ "" →
        report { ending := .exited 1 }
            { spaceId := "abc", environmentId := "master", managementToken := some token }
            "import.json" defaultTimeout
          =
        .ok result := by
  have hoption : tokenOption ∉ ["abc", "master", "import.json"] := by decide
  have hspace : "abc" ≠ "" := by decide
  have henvironment : "master" ≠ "" := by decide
  obtain ⟨_, _, _, hreport⟩ := token_hidden_iff hspace henvironment "import.json"
  exact ⟨hoption, (hreport (.exited 1) defaultTimeout).mpr hoption⟩

/-- With the name of the option as the space, the word after that is hidden in place of the token. -/
theorem token_shown_for_optionAsSpace :
    (command
        { spaceId := "--management-token"
          environmentId := "master"
          managementToken := some "secret" } "import.json").map masked
        =
      .ok ["contentful", "space", "import", "--space-id", "--management-token", "****", "master",
        "--content-file", "import.json", "--management-token", "secret"]
      ∧ (command { spaceId := "--management-token", environmentId := "master" } "import.json").map
          (· ++ ["--management-token", "****"])
        =
      .ok ["contentful", "space", "import", "--space-id", "--management-token", "--environment-id",
        "master", "--content-file", "import.json", "--management-token", "****"] :=
  ⟨rfl, rfl⟩

end MarkdownIntake.Import
