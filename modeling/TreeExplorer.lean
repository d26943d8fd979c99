import TreeExplorer.Main
import TreeExplorer.Session
import TreeExplorer.Walk.Schedule
import TreeExplorer.Proofs.Config.Forms
import TreeExplorer.Proofs.Config.Splitting
import TreeExplorer.Proofs.Language.Names
import TreeExplorer.Proofs.Log.Installation
import TreeExplorer.Proofs.Program.CaptureOrder
import TreeExplorer.Proofs.Program.Limit
import TreeExplorer.Proofs.Program.Stages
import TreeExplorer.Proofs.Program.Streams
import TreeExplorer.Proofs.Query.Handover
import TreeExplorer.Proofs.Record.HumanLines
import TreeExplorer.Proofs.Text.FirstLine
import TreeExplorer.Proofs.Tree.Layout
import TreeExplorer.Proofs.Tree.NodeText
import TreeExplorer.Proofs.Tree.Preorder
import TreeExplorer.Proofs.Walk.Depth
import TreeExplorer.Proofs.Walk.Ending
import TreeExplorer.Proofs.Walk.Interleaving
import TreeExplorer.Proofs.Walk.Laziness
import TreeExplorer.Proofs.Walk.Named
import TreeExplorer.Proofs.Walk.Subtree
