import RunnersMux.Foundations.Transitions
import RunnersMux.Foundations.FiniteMaps
import RunnersMux.Foundations.Strings
import RunnersMux.Orchestrator.Capacity
import RunnersMux.Orchestrator.Assignment
import RunnersMux.Orchestrator.Phantoms
import RunnersMux.Orchestrator.Counters
import RunnersMux.Orchestrator.Accounting
import RunnersMux.Orchestrator.Wakeups
import RunnersMux.Mux.Lifecycle
import RunnersMux.Standalone.Manager
import RunnersMux.Standalone.Effects
import RunnersMux.Standalone.Ownership
import RunnersMux.Standalone.Orderly
import RunnersMux.Standalone.Freezing
import RunnersMux.Standalone.Thawing
import RunnersMux.Mux.Multiplexer
import RunnersMux.Orchestrator.Pausing
import RunnersMux.Orchestrator.Sparing
import RunnersMux.Config.Auth
import RunnersMux.Dashboard.Requests
import RunnersMux.Dashboard.Identity
import RunnersMux.Dashboard.Gate
import RunnersMux.Standalone.Halts
import RunnersMux.Standalone.Holding
import RunnersMux.Orchestrator.Full
import RunnersMux.Orchestrator.Jobs
import RunnersMux.Orchestrator.Naming
import RunnersMux.Orchestrator.Restart
import RunnersMux.Orchestrator.Serving
import RunnersMux.Mux.Workers
import RunnersMux.Orchestrator.Agreement
import RunnersMux.Orchestrator.Remembering
import RunnersMux.Mux.Tenancy
import RunnersMux.Orchestrator.Events
import RunnersMux.Standalone.Custody
import RunnersMux.Standalone.Signals
import RunnersMux.ScaleSet.Manager
import RunnersMux.ScaleSet.Sole
import RunnersMux.Standalone.Sole
import RunnersMux.Dashboard.Runners
import RunnersMux.Standalone.Reporting
import RunnersMux.Standalone.Records
import RunnersMux.Standalone.Reaching
import RunnersMux.Orchestrator.Supply
import RunnersMux.ScaleSet.Scaler
import RunnersMux.ScaleSet.Provisioning
import RunnersMux.ScaleSet.Demand
import RunnersMux.Orchestrator.Aborting
import RunnersMux.Dashboard.Settings
import RunnersMux.ScaleSet.Cancelling
import RunnersMux.Mux.Conformance
import RunnersMux.Standalone.Conforming
import RunnersMux.ScaleSet.Conforming
import RunnersMux.Mux.Lawful
import RunnersMux.Mux.Working
import RunnersMux.Dashboard.Service
import RunnersMux.Dashboard.Deletions
import RunnersMux.Dashboard.Views
import RunnersMux.Dashboard.Directories
import RunnersMux.Worker.Delivery
import RunnersMux.Worker.Deadlock
import RunnersMux.Foundations.Trimming
import RunnersMux.GitHub.Urls
import RunnersMux.GitHub.Listing
import RunnersMux.Worker.Header
import RunnersMux.Dashboard.Tokens
import RunnersMux.Dashboard.Confining
import RunnersMux.Dashboard.Managing
import RunnersMux.Dashboard.Authorised
import RunnersMux.Dashboard.Responses
import RunnersMux.Dashboard.Secrecy
import RunnersMux.Worker.Outcome
import RunnersMux.Web.AddRunner
import RunnersMux.Foundations.Counting
import RunnersMux.Foundations.Measures
import RunnersMux.Foundations.Tables
import RunnersMux.Orchestrator.Orphans
import RunnersMux.Orchestrator.Filling
import RunnersMux.Orchestrator.Answering
import RunnersMux.Dashboard.Table
import RunnersMux.Orchestrator.Crediting
import RunnersMux.Foundations.Contents
import RunnersMux.Standalone.Environment
import RunnersMux.Standalone.Fleet
import RunnersMux.Foundations.Simulations
import RunnersMux.Foundations.Leases
import RunnersMux.Orchestrator.Leasing
import RunnersMux.Web.Selecting
import RunnersMux.Web.Submitting
import RunnersMux.Orchestrator.Addresses
import RunnersMux.Worker.Contacts
import RunnersMux.Worker.Handover
import RunnersMux.Foundations.Encoding
import RunnersMux.Web.Configuring
import RunnersMux.Dashboard.Administering
import RunnersMux.GitHub.Access
import RunnersMux.Web.Offering
