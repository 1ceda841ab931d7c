import Fidelity.Proofs.Command.FirstFailure

/-!
# The words of a file

Main statement: the words of a file are printed as JSON that holds the entries of their bag, each once
and in the order of their bytes, and nothing but the bag shows in what is printed.
-/
namespace Fidelity.Command

theorem stdout_words {files : Files} {i : Invocation} {file text : String}
    (htask : i.task = .words file) (hload : firstFailure? files (loadChecks i.options) = none)
    (hfile : files file = .ok text) :
    stdout (runOn files i) =
      printed (Json.ofBag ((configOf files i.options).tokenizer.bag text)).pretty := by
  have hchecks : firstFailure? files (checks files i) = none := by
    rw [checks, htask, firstFailure?_append, hload]
    simp [taskChecks, firstFailure?, Check.failure?, failed, hfile]
  have htext : textAt files file = text := by
    rw [textAt, hfile]
    rfl
  rw [runOn_eq_answer, answer, outcome_of_none hchecks, stdout, htask, resultOf, htext]

/-- Whatever the configuration and the text, a run that gets to them prints their bag of words. -/
theorem words_prints_bag (c : Config Float) (text : String) :
    Renders (c.tokenizer.bag text) (printed (Json.ofBag (c.tokenizer.bag text)).pretty) ∧
      (∀ (c' : Config Float) (text' : String),
        (c'.tokenizer.bag text').entries.Perm (c.tokenizer.bag text).entries →
          (Json.ofBag (c'.tokenizer.bag text')).pretty =
            (Json.ofBag (c.tokenizer.bag text)).pretty) ∧
      ∀ (files : Files) (i : Invocation) (file : String), i.task = .words file →
        firstFailure? files (loadChecks i.options) = none → configOf files i.options = c →
          files file = .ok text →
            stdout (runOn files i) = printed (Json.ofBag (c.tokenizer.bag text)).pretty := by
  refine ⟨renders_of_isTextOf (Json.isTextOf_pretty_newline _), ?_, ?_⟩
  · intro c' text' hperm
    rw [Json.ofBag, Json.ofBag, Bag.sorted_eq_of_perm hperm]
  · intro files i file htask hload hc hfile
    rw [stdout_words htask hload hfile, hc]

def quotedWords : Files
  | "config" => .ok "\x7b\"exclude_punctuation\": [\"\\\"\", \"\\\\\"]\x7d"
  | "text" => .ok "say \"a\\b\", \"A\\b\"!"
  | _ => .error .notFound

def quotedInvocation : Invocation := ⟨⟨some "config", none, none, [], false⟩, .words "text"⟩

theorem words_prints_bag_quoted :
    stdout (runOn quotedWords quotedInvocation) =
      "\x7b\n  \"\\\"a\\\\b\\\"\": 2,\n  \"say\": 1\n\x7d\n" := by
  have hload : firstFailure? quotedWords (loadChecks quotedInvocation.options) = none := by
    decide +kernel
  have hentries : ((configOf quotedWords quotedInvocation.options).tokenizer.bag
      "say \"a\\b\", \"A\\b\"!").entries = [("say", 1), ("\"a\\b\"", 2)] := by decide +kernel
  have hsorted : ((configOf quotedWords quotedInvocation.options).tokenizer.bag
      "say \"a\\b\", \"A\\b\"!").sorted = [("\"a\\b\"", 2), ("say", 1)] := by
    rw [Bag.sorted, hentries]
    simp [List.mergeSort]
  obtain ⟨-, -, hrun⟩ := words_prints_bag (configOf quotedWords quotedInvocation.options)
    "say \"a\\b\", \"A\\b\"!"
  rw [hrun quotedWords quotedInvocation "text" rfl hload rfl rfl, Json.ofBag, hsorted]
  decide +kernel

end Fidelity.Command
