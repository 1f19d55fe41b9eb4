import GreenTyper.Ledger.Corruption
import GreenTyper.Ledger.Exact
import GreenTyper.Provider.ResponsesText
import GreenTyper.Provider.Stages
import GreenTyper.Team.Acknowledgement
import GreenTyper.Team.Authority
import GreenTyper.Team.Failure
import GreenTyper.Team.Planning
import GreenTyper.Team.Recovery
import GreenTyper.Team.Schemas
import GreenTyper.Team.WaitGraph
import GreenTyper.Tool.Replay
import GreenTyper.Usage.Books
import GreenTyper.Usage.Projection
import GreenTyper.Config.Accepted
import GreenTyper.Config.Commit
import GreenTyper.Provider.Credential
import GreenTyper.Lib.Hex
import GreenTyper.Lib.Suffix
import GreenTyper.Config.Assign
import GreenTyper.Config.Cells
import GreenTyper.Context.Checkpoint
import GreenTyper.Lib.JsonMap
import GreenTyper.Tool.Arguments
import GreenTyper.Tui.Approval
import GreenTyper.Usage.Estimates
import GreenTyper.Usage.Report
import GreenTyper.Workspace.Model
import GreenTyper.Workspace.ReadSet
import GreenTyper.AppServer.Requests
import GreenTyper.Config.Changes
import GreenTyper.Config.Fallbacks
import GreenTyper.Config.Epoch
import GreenTyper.Config.Views
import GreenTyper.Tui.Renderer
import GreenTyper.Tui.ConfigEditorRuns
import GreenTyper.Lib.Machine
import GreenTyper.Runtime.Ids
import GreenTyper.Runtime.Evidence
import GreenTyper.Lib.Program
import GreenTyper.Runtime.Acceptance
import GreenTyper.Runtime.Admission
import GreenTyper.Runtime.Requests
