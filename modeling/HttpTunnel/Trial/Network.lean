import HttpTunnel.Failure

/-!
What an attempt to connect meets in a scripted run.
-/

namespace HttpTunnel.Trial

inductive Network where
  | answers
  | fails (cause : IoFault)
  deriving DecidableEq, Repr

end HttpTunnel.Trial
