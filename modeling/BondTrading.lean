import BondTrading.Py.Text
import BondTrading.Domain.Engine
import BondTrading.Domain.Exact
import BondTrading.Py.Outcome
import BondTrading.Domain.Yields
import BondTrading.Machines.Runs
import BondTrading.Auth.Validity
import BondTrading.Auth.Logins
import BondTrading.Auth.Administrators
import BondTrading.Sheets.Connection
import BondTrading.Auth.Sessions
import BondTrading.Sheets.Queue
import BondTrading.Sheets.Moves
import BondTrading.Sheets.Coalescing
import BondTrading.Sheets.Starvation
import BondTrading.Sheets.Effects
import BondTrading.Sheets.Retries
import BondTrading.Sheets.Overlaps
import BondTrading.Sheets.Disabling
import BondTrading.Sheets.RateLimit
import BondTrading.Sheets.FollowUps
import BondTrading.Py.Dict
import BondTrading.Py.Json
import BondTrading.Moex.Tables
import BondTrading.Moex.Mapper
import BondTrading.Orders.Reordered
import BondTrading.Moex.Columns
import BondTrading.Py.Routine
import BondTrading.Sql.Session
import BondTrading.Db.Tables
import BondTrading.Domain.Isin
import BondTrading.Imports.Service
import BondTrading.Imports.Commits
import BondTrading.Instruments.Moex
import BondTrading.Instruments.Service
import BondTrading.Sheets.Calculations
import BondTrading.Sheets.Rows
import BondTrading.Instruments.Cashflows
import BondTrading.Sheets.Execute
import BondTrading.Sheets.Written
import BondTrading.Sheets.Frame
import BondTrading.Sheets.Placement
import BondTrading.Lots.Service
import BondTrading.Instruments.Stored
import BondTrading.Lots.Calculation
import BondTrading.Lots.Revisions
import BondTrading.Lots.LatestAmounts
import BondTrading.Instruments.Views
import BondTrading.Instruments.Outcomes
import BondTrading.Sheets.Refreshes
import BondTrading.Sheets.RowCells
import BondTrading.Sheets.Batches
import BondTrading.Sheets.Statuses
import BondTrading.Sheets.Repetitions
import BondTrading.Sheets.Attempts
import BondTrading.Sheets.FailedRefreshes
import BondTrading.Py.Numerals
import BondTrading.Sheets.SameAnswers
import BondTrading.Worker.Process
import BondTrading.Sheets.Numbers
import BondTrading.Sheets.Memory
import BondTrading.Sheets.Refilled
import BondTrading.Sheets.Repeats
import BondTrading.Sheets.Writes
import BondTrading.Sheets.Harmless
import BondTrading.Sheets.Isolation
import BondTrading.Imports.Uploads
import BondTrading.Imports.Previews
import BondTrading.Portfolio.Answers
import BondTrading.Portfolio.Requests
import BondTrading.Portfolio.Possessions
import BondTrading.Portfolio.Transactions
import BondTrading.Portfolio.Sight
import BondTrading.Portfolio.Integrity
import BondTrading.Portfolio.Writes
import BondTrading.Portfolio.Agreement
import BondTrading.Portfolio.Confidentiality
import BondTrading.Domain.Scaling
import BondTrading.Sums.Luhn
import BondTrading.Domain.Typos
import BondTrading.Codes.Quoting
import BondTrading.Sheets.Google
import BondTrading.Sheets.Addresses
import BondTrading.Sheets.Columns
import BondTrading.Sheets.Sparse
import BondTrading.Orders.Stable
import BondTrading.Presentation.Portfolio
import BondTrading.Presentation.Sorting
import BondTrading.Presentation.Page
import BondTrading.Domain.Monotone
import BondTrading.Sheets.Formula
import BondTrading.Instruments.LatestFlows
import BondTrading.Sheets.CouponTotals
import BondTrading.Lots.Principal
import BondTrading.Lots.Scenarios
import BondTrading.Py.Numbered
import BondTrading.Imports.Reader
import BondTrading.Imports.Blocks
import BondTrading.Imports.BadRows
import BondTrading.Lots.Schemas
import BondTrading.Imports.Admission
import BondTrading.Imports.Replays
import BondTrading.Instruments.Quotes
import BondTrading.Instruments.Upserts
import BondTrading.Sheets.Queries
import BondTrading.Lots.Overrides
import BondTrading.Machines.Budgets
import BondTrading.Machines.Registers
import BondTrading.Sheets.Overtaking
import BondTrading.Imports.Objects
import BondTrading.Portfolio.Files
import BondTrading.Portfolio.Bucket
import BondTrading.Auth.Access
import BondTrading.Auth.Authors
import BondTrading.Auth.Authority
import BondTrading.Moex.Client
import BondTrading.Moex.Calls
import BondTrading.Moex.Retries
import BondTrading.Moex.Finishing
import BondTrading.Moex.Cached
import BondTrading.Machines.Overwrites
import BondTrading.Sheets.Delivery
import BondTrading.Sheets.Mirror
import BondTrading.Sheets.Server
import BondTrading.Sheets.Redeliveries
import BondTrading.Sheets.Alike
import BondTrading.Sheets.Fills
import BondTrading.Sheets.Mirrored
import BondTrading.Sheets.Production
