import SehDispatch.Word
import SehDispatch.Loop
import SehDispatch.Records
import SehDispatch.ValidHandler
import SehDispatch.Dispatch
import SehDispatch.DispatchWalk
import SehDispatch.DispatchOutcome
import SehDispatch.Nested
import SehDispatch.Unwind
import SehDispatch.UnwindWalk
import SehDispatch.UnwindChain
import SehDispatch.Handoff
import SehDispatch.TwoPhase
import SehDispatch.DpcStack
import SehDispatch.SortedTable
import SehDispatch.FiniteChain
