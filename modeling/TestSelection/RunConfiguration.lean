/-!
# Run configuration

The two kinds of tests that are off unless asked for.
-/
namespace TestSelection

structure RunConfiguration where
  runDestructive : Bool := false
  runExpensive : Bool := false
  deriving DecidableEq, Inhabited

/-- A kind of test is on when either configuration turns it on. -/
def RunConfiguration.merge (a b : RunConfiguration) : RunConfiguration where
  runDestructive := a.runDestructive || b.runDestructive
  runExpensive := a.runExpensive || b.runExpensive

end TestSelection
